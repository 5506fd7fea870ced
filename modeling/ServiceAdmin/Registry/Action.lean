import ServiceAdmin.Registry.Record
import ServiceAdmin.Service.Action

/-!
# Acting on registrations

An action is applied to one registration after the other.  A line tells of each one before its
request is sent, and the first failure ends the sequence.
-/

namespace ServiceAdmin.Registry

/-- What can be done with a registration. -/
inductive InstanceAction
  /-- Removes the registration. -/
  | deregister
  /-- Takes back a status that was forced on the instance. -/
  | enable
  /-- Forces the status out of service on the instance. -/
  | disable
  deriving DecidableEq, Repr

namespace InstanceAction

def text : InstanceAction → String
  | deregister => "deregister"
  | enable => "enable"
  | disable => "disable"

/-- The line that tells of the action on a record. -/
def line (action : InstanceAction) (record : Record) (registry : String) : String :=
  let (verb, preposition) := match action with
    | deregister => ("Deregistering", "from")
    | enable => ("Enabling", "in")
    | disable => ("Disabling", "in")
  verb ++ " service instance " ++ record.instanceId ++ " with eureka app name " ++
    record.registeredName ++ " " ++ preposition ++ " service registry " ++ registry

/-- The request of the action to the registry at `base`. -/
def request (action : InstanceAction) (base app instanceId token : String) : Http.Request :=
  let url := base ++ "eureka/apps/" ++ app ++ "/" ++ instanceId
  match action with
  | deregister => ⟨.delete, url, none, token⟩
  | enable => ⟨.delete, url ++ "/status?value=UP", none, token⟩
  | disable => ⟨.put, url ++ "/status?value=OUT_OF_SERVICE", none, token⟩

/-- Whether the action succeeded, by the response to its request. -/
def judge (action : InstanceAction) (record : Record) (response : Http.Response) :
    Except Error Unit :=
  if response.isSuccess then .ok ()
  else .error (.operation (.unexpectedStatus
    ("failed to " ++ action.text ++ " service instance " ++ record.instanceId) response.status))

/-- Applies the action to one registration. -/
def apply (action : InstanceAction) (base token : String) (record : Record) :
    Service.Action Unit :=
  Service.submit (action.request base record.registeredName record.instanceId token)
    (action.judge record)

/-- Applies the action to all records. -/
def applyAll (action : InstanceAction) (base token registry : String) :
    List Record → Service.Action Unit
  | [] => pure ()
  | record :: rest => do
    Service.tell (action.line record registry)
    action.apply base token record
    applyAll action base token registry rest

end InstanceAction

end ServiceAdmin.Registry
