import ServiceAdmin.Json.Value
import ServiceAdmin.Json.Write
import ServiceAdmin.Report.View
import ServiceAdmin.Service.Resolve
import ServiceAdmin.Service.SecretPath

/-!
# Operations

What can be done with one service instance.  An operation is checked before anything is sent, it is
sent as one request to the URL of its kind, and the response decides.
-/

namespace ServiceAdmin.Service

open Http (Payload Request Response)

/-- What changes the runtime state of a service instance. -/
inductive Lifecycle
  | start
  | stop
  | restart
  | restage
  deriving DecidableEq, Repr

def Lifecycle.text : Lifecycle → String
  | start => "start"
  | stop => "stop"
  | restart => "restart"
  | restage => "restage"

inductive Operation
  | lifecycle (command : Lifecycle)
  | view
  | parameters
  | encrypt (plaintext : String)
  | refreshMirrors
  | addSecret (path secret : String)
  | removeSecret (path : String)
  | deleteRepository (uri : String)
  deriving DecidableEq, Repr

namespace Operation

/-- The kind of URL that the operation is sent to. -/
def endpointKind : Operation → EndpointKind
  | lifecycle _ => .lifecycle
  | view | parameters | deleteRepository _ => .management
  | encrypt _ | refreshMirrors | addSecret .. | removeSecret _ => .service

def isLifecycle (operation : Operation) : Bool := operation.endpointKind = .lifecycle

/-- Checks what the user gave. -/
def validate : Operation → Except ValidationError Unit
  | encrypt plaintext =>
    if plaintext = "" then .error (.invalidArgument "Value to encrypt must not be empty")
    else .ok ()
  | addSecret path secret => do
    checkSecretPath path
    match Json.decodeText (.value Json.maxDepth) secret with
    | .ok _ => .ok ()
    | .error reason => .error (.invalidSecretJson reason)
  | removeSecret path => checkSecretPath path
  | deleteRepository uri =>
    if Text.isAllBlank uri then .error (.invalidArgument "Git repository URI must not be empty")
    else .ok ()
  | lifecycle _ | view | parameters | refreshMirrors => .ok ()

/-- The request of an operation. -/
def request (operation : Operation) (p : Parameters) (token : String) : Request :=
  match operation with
  | lifecycle command =>
    ⟨.put, p.url ++ "/command?" ++ command.text ++ "=",
      some (.json (Json.writeObject
        [("serviceOfferingName", p.offeringName), ("planName", p.planName)])), token⟩
  | view => ⟨.get, p.url, none, token⟩
  | parameters => ⟨.get, p.url ++ "/parameters", none, token⟩
  | encrypt plaintext => ⟨.post, p.url ++ "encrypt", some ⟨"text/plain", plaintext⟩, token⟩
  | refreshMirrors =>
    ⟨.post, p.url ++ "actuator/refreshmirrors", some (.json ""), token⟩
  | addSecret path secret => ⟨.put, p.url ++ "secrets/" ++ path, some (.json secret), token⟩
  | removeSecret path => ⟨.delete, p.url ++ "secrets/" ++ path, none, token⟩
  | deleteRepository uri =>
    ⟨.patch, p.url, some (.json (Json.writeObject [("operation", "delete"), ("repo", uri)])), token⟩

/-- What a refused operation failed to do. -/
def refusal : Operation → String
  | lifecycle command => "failed to " ++ command.text ++ " service instance"
  | view => "failed to retrieve service instance details"
  | parameters => "failed to retrieve service instance parameters"
  | encrypt _ => "failed to encrypt value"
  | refreshMirrors => "failed to refresh mirror"
  | addSecret .. => "failed to add secret to CredHub"
  | removeSecret _ => "failed to remove secret from CredHub"
  | deleteRepository uri => "Unable to delete git repo " ++ uri

/-- Whether the status of a response accepts the operation. -/
def accepts : Operation → Response → Bool
  | lifecycle _, r => r.isSuccess
  | _, r => r.isOk

/-- The error of an operation that was not accepted. -/
def refused (operation : Operation) (r : Response) : OperationError :=
  match operation with
  | encrypt _ =>
    if r.body = "" then .unexpectedStatus operation.refusal r.status else .encryption r.body
  | _ => .unexpectedStatus operation.refusal r.status

/-- What an accepted operation prints. -/
def output (operation : Operation) (zone : Report.Zone) (p : Parameters) (r : Response) :
    Except Error String :=
  match operation with
  | view => do
    let body ← (r.requireBody p.url).mapError .transport
    let apps ← (decodeBody Report.backingAppsShape "service instance view" body).mapError .protocol
    .ok (Report.view zone apps)
  | parameters => .ok r.body
  | encrypt _ => .ok r.body
  | _ => .ok ""

/-- What the operation prints, by the response to its request. -/
def judge (operation : Operation) (zone : Report.Zone) (p : Parameters) (r : Response) :
    Except Error String :=
  if operation.accepts r then operation.output zone p r
  else .error (.operation (operation.refused r))

/-- Sends the operation and gives what it prints. -/
def run (operation : Operation) (zone : Report.Zone) (p : Parameters) (token : String) :
    Action String :=
  submit (operation.request p token) (operation.judge zone p)

end Operation

/-- Checks an operation, gets the token, resolves the service instance and sends the operation. -/
def perform (zone : Report.Zone) (hostPrefix name : String) (operation : Operation) :
    Action String := do
  ofExcept .validation operation.validate
  let token ← accessToken
  let p ← resolve hostPrefix name token operation.endpointKind
  operation.run zone p token

end ServiceAdmin.Service
