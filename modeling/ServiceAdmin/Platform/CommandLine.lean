import ServiceAdmin.Diagnostics.Redaction
import ServiceAdmin.Dialogue
import ServiceAdmin.Error
import ServiceAdmin.Json.Decode
import ServiceAdmin.Platform.Payload
import ServiceAdmin.Platform.Query
import ServiceAdmin.Platform.Target
import ServiceAdmin.Text.Utf8

/-!
# The platform through its command line

Questions to the platform are answered by runs of the program `cf`, which knows what the user is
logged in to.  Once `cf target` has succeeded it is not run again.
-/

namespace ServiceAdmin.Platform

/-- What became of a run of `cf`. -/
inductive Outcome
  | notStarted (message : String)
  | exited (status : Nat) (stdout stderr : List UInt8)
  deriving DecidableEq, Repr

/-- Runs of `cf`, each with its arguments. -/
def commandInterface : Interface := ⟨List String, fun _ => Outcome⟩

abbrev Command (α : Type) := ExceptT PlatformError (Dialogue commandInterface) α

/-- What a run printed; a failed run is told by what it printed as errors, or else at all. -/
def Outcome.printed (verb : String) : Outcome → Except PlatformError String
  | notStarted message => .error (.command verb message)
  | exited status stdout stderr =>
    if status = 0 then
      (Text.Utf8.decode? stdout).mapError fun fault => .output verb fault.message
    else
      let errors := Text.trim (Text.Utf8.decodeLossy stderr)
      let message := if errors = "" then Text.trim (Text.Utf8.decodeLossy stdout) else errors
      .error (.command verb (Diagnostics.redact message))

/-- Runs `cf`; no argument can hold a NUL. -/
def cf (args : List String) : Command String :=
  ExceptT.mk do
    let verb := args.headD ""
    if args.any (·.toList.contains '\x00') then
      return .error (.command verb "nul byte found in provided data")
    let outcome ← Dialogue.query (I := commandInterface) args
    return outcome.printed verb

/-- The value that an answer of the API writes, unless it complains. -/
def decodeAnswer {α : Type} (shape : Json.Shape α) (path body : String) :
    Except PlatformError α :=
  match Json.decodeText complaintsShape body with
  | .ok (first :: _) => .error (.command "curl" (first.title ++ ": " ++ first.detail))
  | _ => (Json.decodeText shape body).mapError fun reason =>
      .output "curl" (path ++ ": " ++ reason)

/-- The value that the API answers to a path. -/
def curlAs {α : Type} (shape : Json.Shape α) (path : String) : Command α := do
  let body ← cf ["curl", path]
  ExceptT.mk (return decodeAnswer shape path body)

def instancePath (guid : String) : String :=
  "/v3/service_instances/" ++ guid ++
    "?fields[service_plan]=name,relationships.service_offering" ++
    "&fields[service_plan.service_offering]=name"

def appsPath (spaceGuid : String) : String :=
  "/v3/apps?space_guids=" ++ spaceGuid ++ "&per_page=5000"

def findInstance (name : String) : Command Service.Instance := do
  let guid ← cf ["service", name, "--guid"]
  let answer ← curlAs InstanceAnswer.shape (instancePath (Text.trim guid))
  return answer.toInstance name

/-- The target, and whether it is known from now on. -/
def target (known : Option Target) : Dialogue commandInterface
    (Except PlatformError Target × Option Target) := do
  match known with
  | some target => return (.ok target, known)
  | none =>
    match ← (cf ["target"]).run with
    | .ok output => return (.ok (.ofOutput output), some (.ofOutput output))
    | .error e => return (.error e, none)

/-- A value of the target that must be there. -/
def required (label : String) (value : Option String) : Except PlatformError String :=
  match value with
  | some value => .ok value
  | none => .error (.output "target" ("no '" ++ label ++ "' in cf target output"))

/-- The applications in a space. -/
def appsOf (space : String) : Command (List Service.App) := do
  let guid ← cf ["space", space, "--guid"]
  curlAs appsShape (appsPath (Text.trim guid))

/-- Answers a question; the target that is known is kept. -/
def answer (q : Query) (known : Option Target) :
    Dialogue commandInterface (Except PlatformError q.Value × Option Target) :=
  match q with
  | .service name => do return (← (findInstance name).run, known)
  | .apps => do
    let (found, known) ← target known
    match found.bind fun t => required "space" t.space with
    | .error e => return (.error e, known)
    | .ok space => return (← (appsOf space).run, known)
  | .apiEndpoint => do
    let (found, known) ← target known
    return (found.bind fun t => required "API endpoint" t.apiEndpoint, known)
  | .token => do return (← (cf ["oauth-token"]).run, known)
  | .curl path => do return (← (cf ["curl", path]).run, known)
  | .username => do
    let (found, known) ← target known
    return (found.bind fun t => required "user" t.user, known)
  | .org => do
    let (found, known) ← target known
    return (found.bind fun t => required "org" t.org, known)
  | .space => do
    let (found, known) ← target known
    return (found.bind fun t => required "space" t.space, known)

end ServiceAdmin.Platform
