import ServiceAdmin.Service.Action
import ServiceAdmin.Service.Body
import ServiceAdmin.Service.Discovery
import ServiceAdmin.Service.Endpoint

/-!
# Resolving service instances

A service instance is looked up by its name, and the URL that an operation talks to is derived from
its dashboard.  An embedded broker is asked where the running service is; the central broker is
asked whether it is there at all.  No more than one request is sent, and none is sent again.
-/

namespace ServiceAdmin.Service

/-- The URL that an operation needs. -/
inductive EndpointKind
  /-- The running service itself; the URL ends in a slash. -/
  | service
  /-- The instance as its broker manages it. -/
  | management
  /-- The same, but from the central broker for instances of that generation. -/
  | lifecycle
  deriving DecidableEq, Repr

/-- Where an operation is sent, and the offering and the plan of the instance. -/
structure Parameters where
  url : String
  offeringName : String
  planName : String
  deriving DecidableEq, Repr

/-- The text without the slashes at its end. -/
def dropSlashes (s : String) : String :=
  String.ofList (s.toList.reverse.dropWhile (· = '/')).reverse

/-- Where the running service is, by what an embedded broker answered to the probe. -/
def discovered (probe : String) (response : Http.Response) : Except Error String := do
  if response.status = 404 then throw (.resolve .legacyBrokerUnsupported)
  if !response.isOk then throw (.resolve (.brokerProbe probe response.status))
  let body ← (response.requireBody probe).mapError .transport
  let uri ← (decodeBody discovery "service instance" body).mapError .protocol
  if dropSlashes uri = "" then throw (.resolve (.emptyServiceUri probe))
  return dropSlashes uri ++ "/"

/-- Asks an embedded broker where the running service is. -/
def discover (dashboard token : String) : Action String := do
  let (origin, guid) ← ofExcept .resolve (dashboardOriginAndGuid dashboard)
  let probe := origin ++ "/cli/instance/" ++ guid
  submit ⟨.get, probe, none, token⟩ (discovered probe)

/-- Where the lifecycle of an instance is managed, by what the central broker answered to the probe.
If the broker is not there, the instance is managed at its dashboard. -/
def brokerOrDashboard (service : Instance) (broker probe : String) (response : Http.Response) :
    Except Error String :=
  if response.isOk then .ok (broker ++ managementPath ++ "/" ++ service.guid)
  else if response.status = 404 then (managementUrl service.dashboardUrl).mapError .resolve
  else .error (.resolve (.brokerProbe probe response.status))

/-- The URL for the lifecycle of an instance that the central broker runs. -/
def lifecycleUrl (service : Instance) (hostPrefix token : String) : Action String := do
  let api ← askPlatform .apiEndpoint
  let api ← ofExcept .platform api
  let broker ← ofExcept .resolve (brokerBaseUrl api hostPrefix)
  let probe := broker ++ "/actuator/info"
  submit ⟨.get, probe, none, token⟩ (brokerOrDashboard service broker probe)

/-- The URL of a kind for a service instance. -/
def endpointUrl (service : Instance) (hostPrefix token : String) : EndpointKind → Action String
  | .service =>
    match service.generation with
    | .embedded => discover service.dashboardUrl token
    | .central => ofExcept .resolve (dashboardRootUrl service.dashboardUrl)
  | .management => ofExcept .resolve (managementUrl service.dashboardUrl)
  | .lifecycle =>
    match service.generation with
    | .embedded => ofExcept .resolve (managementUrl service.dashboardUrl)
    | .central => lifecycleUrl service hostPrefix token

/-- Looks up a service instance and derives the URL of a kind for it. -/
def resolve (hostPrefix name token : String) (kind : EndpointKind) : Action Parameters := do
  match ← askPlatform (.service name) with
  | .error e => throw (.lookup (.serviceNotFound name e.message))
  | .ok service =>
    let url ← endpointUrl service hostPrefix token kind
    return ⟨url, service.offeringName, service.planName⟩

end ServiceAdmin.Service
