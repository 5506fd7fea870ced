import ServiceAdmin.Registry.Action
import ServiceAdmin.Registry.Join
import ServiceAdmin.Registry.Select
import ServiceAdmin.Report.Table
import ServiceAdmin.Service.Resolve

/-!
# The view of a registry

Reports on a service registry, and actions on the registrations of one application.
-/

namespace ServiceAdmin.Registry

open Service (Action ofExcept submit)

/-- The lines that begin a report. -/
def reportHead (registry base : String) : String :=
  "Service instance: " ++ registry ++ "\nServer URL: " ++ base ++ "\n"

/-- The report on the registry itself. -/
def Info.report (registry base : String) (info : Info) : String :=
  let peers := if info.peers.isEmpty then "none" else ", ".intercalate (info.peers.map (·.uri))
  reportHead registry base ++ "High availability count: " ++ toString info.nodeCount ++
    "\nPeers: " ++ peers ++ "\n"

def listHeaders : List String :=
  ["eureka app name", "cf app name", "cf instance index", "zone", "status"]

def Record.row (r : Record) : List String :=
  [r.registeredName, r.appName, r.instanceIndex, r.zone, r.status.text]

/-- The report on all registrations. -/
def listReport (registry base : String) (records : List Record) : String :=
  reportHead registry base ++ "\n" ++
    if records.isEmpty then "No registered applications found\n"
    else Report.table listHeaders (records.map Record.row)

/-- The URL of a registry and the access token. -/
def locate (hostPrefix registry : String) : Action (String × String) := do
  let token ← Service.accessToken
  let p ← Service.resolve hostPrefix registry token .service
  return (p.url, token)

/-- The body of a response with a status of success; with another status, `failure` is what is
told. -/
def successBody (failure url : String) (response : Http.Response) : Except Error String :=
  if response.isSuccess then (response.requireBody url).mapError .transport
  else .error (.operation (.unexpectedStatus failure response.status))

/-- The registrations of all applications, by the response of the registry. -/
def applicationsOf (url : String) (response : Http.Response) :
    Except Error (List (List Registration)) := do
  let body ← successBody "failed to retrieve registered applications" url response
  (Service.decodeBody applicationsShape "registered applications" body).mapError .protocol

/-- All records of the registry at `base`. -/
def records (base token : String) : Action (List Record) := do
  let url := base ++ "eureka/apps"
  let applications ← submit ⟨.get, url, none, token⟩ (applicationsOf url)
  recordsOf applications

/-- The registry itself, by its response. -/
def infoOf (url : String) (response : Http.Response) : Except Error Info := do
  let body ← successBody "failed to retrieve service registry info" url response
  (Service.decodeBody Info.shape "service registry info" body).mapError .protocol

/-- Reports on the registry itself. -/
def info (hostPrefix registry : String) : Action String := do
  let (base, token) ← locate hostPrefix registry
  let url := base ++ "info"
  let info ← submit ⟨.get, url, none, token⟩ (infoOf url)
  return info.report registry base

/-- Reports on all registrations. -/
def list (hostPrefix registry : String) : Action String := do
  let (base, token) ← locate hostPrefix registry
  let records ← records base token
  return listReport registry base records

/-- Applies an action to the registrations of an application. -/
def operate (hostPrefix registry appName : String) (index : Option Nat)
    (action : InstanceAction) : Action Unit := do
  let (base, token) ← locate hostPrefix registry
  let records ← records base token
  let selected ← ofExcept id (select appName index records)
  action.applyAll base token registry selected

end ServiceAdmin.Registry
