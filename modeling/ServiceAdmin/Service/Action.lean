import ServiceAdmin.Dialogue
import ServiceAdmin.Http.Request
import ServiceAdmin.Platform.Query
import ServiceAdmin.Service.Token

/-!
# Actions

An action asks the platform, sends requests and tells its progress, and ends with a value or with an
error.  The first error ends it.
-/

namespace ServiceAdmin.Service

inductive Query
  | platform (q : Platform.Query)
  | send (r : Http.Request)
  /-- Shows a line to the user. -/
  | progress (line : String)

/-- The answers; a line that could not be shown is answered by the reason. -/
abbrev Query.Answer : Query → Type
  | platform q => Except PlatformError q.Value
  | send _ => Except TransportError Http.Response
  | progress _ => Except String Unit

abbrev interface : Interface := ⟨Query, Query.Answer⟩

abbrev Action (α : Type) := ExceptT Error (Dialogue interface) α

/-- Asks the platform. -/
def askPlatform (q : Platform.Query) : Dialogue interface (Except PlatformError q.Value) :=
  Dialogue.query (I := interface) (.platform q)

/-- Sends a request. -/
def send (r : Http.Request) : Action Http.Response :=
  ExceptT.mk do
    match ← Dialogue.query (I := interface) (.send r) with
    | .ok response => return .ok response
    | .error e => return .error (.transport e)

/-- Shows a line. -/
def tell (line : String) : Action Unit :=
  ExceptT.mk do
    match ← Dialogue.query (I := interface) (.progress line) with
    | .ok () => return .ok ()
    | .error reason => return .error (.operation (.progress reason))

/-- Goes on with a value, or ends with an error of the kind. -/
def ofExcept {ε α : Type} (kind : ε → Error) (r : Except ε α) : Action α :=
  match r with
  | .ok a => pure a
  | .error e => throw (kind e)

/-- Sends a request; the response decides how the action goes on. -/
def submit {α : Type} (r : Http.Request) (judge : Http.Response → Except Error α) : Action α := do
  let response ← send r
  ofExcept id (judge response)

/-- The access token of the user. -/
def accessToken : Action String := do
  match ← askPlatform .token with
  | .ok output => ofExcept .auth (extractToken output)
  | .error e => throw (.auth (.unavailable e.message))

end ServiceAdmin.Service
