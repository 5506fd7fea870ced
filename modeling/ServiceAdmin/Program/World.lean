import ServiceAdmin.FileTree
import ServiceAdmin.Http.Exchange
import ServiceAdmin.Platform.CommandLine
import ServiceAdmin.Service.Action

/-!
# The surroundings of the program

The program runs `cf`, sends messages, reads files, prints, and puts warnings into its log.  Actions
on a service instance are carried out by these; what `cf target` has told is kept as long as one
action lasts.
-/

namespace ServiceAdmin.Program

/-- What the program warns of. -/
inductive Warning
  /-- Any certificate is accepted. -/
  | validationDisabled
  /-- The request was not answered, for this reason. -/
  | requestFailed (method : Http.Method) (url reason : String)
  /-- The applications of the space were not listed, and each name is asked for. -/
  | appsUnlisted (e : PlatformError)
  deriving DecidableEq, Repr

def Warning.message : Warning → String
  | validationDisabled => "TLS certificate validation is disabled for this command"
  | requestFailed .. => "http request failed"
  | appsUnlisted _ => "could not list space apps; resolving names one by one"

inductive Query
  | cf (args : List String)
  | send (message : Http.Message)
  | fileText (path : String)
  | print (text : String)
  | warn (warning : Warning)

def Query.Answer : Query → Type
  | cf _ => Platform.Outcome
  | send _ => Http.Delivery
  | fileText _ => Except ReadFault String
  | print _ => Unit
  | warn _ => Unit

def world : Interface := ⟨Query, Query.Answer⟩

def fileText (path : String) : Dialogue world (Except ReadFault String) :=
  Dialogue.query (I := world) (.fileText path)

def print (text : String) : Dialogue world Unit := Dialogue.query (I := world) (.print text)

/-- Warns of something, if there is something to warn of. -/
def warn : Option Warning → Dialogue world Unit
  | some w => Dialogue.query (I := world) (.warn w)
  | none => return ()

/-- Runs of `cf`. -/
def commands {α : Type} (d : Dialogue Platform.commandInterface α) : Dialogue world α :=
  d.embed fun args => Dialogue.query (I := world) (.cf args)

/-- Messages that are sent. -/
def messages {α : Type} (d : Dialogue Http.network α) : Dialogue world α :=
  d.embed fun m => Dialogue.query (I := world) (.send m)

/-- Serves a question of an action; `known` is the target that has been told. -/
def serve (q : Service.interface.Query) (known : Option Platform.Target) :
    Dialogue world (Service.interface.Answer q × Option Platform.Target) :=
  match q with
  | .platform q => commands (Platform.answer q known)
  | .send r => do return (← messages r.exchange, known)
  | .progress line => do
    print (line ++ "\n")
    return (.ok (), known)

/-- The warning of an exchange that failed. -/
def warning? : (q : Service.Query) → q.Answer → Option Warning
  | .platform .apps, .error e => some (.appsUnlisted e)
  | .send r, .error (.failure url reason) => some (.requestFailed r.method url reason)
  | _, _ => none

/-- Answers a question of an action, and warns of what failed. -/
def answer (q : Service.interface.Query) (known : Option Platform.Target) :
    Dialogue world (Service.interface.Answer q × Option Platform.Target) := do
  let (a, known) ← serve q known
  warn (warning? q a)
  return (a, known)

/-- Carries out an action. -/
def carryOut {α : Type} (action : Service.Action α) : Dialogue world (Except Error α) := do
  return (← Dialogue.interpret answer action.run none).1

end ServiceAdmin.Program
