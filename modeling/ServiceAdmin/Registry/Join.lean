import ServiceAdmin.Registry.Record
import ServiceAdmin.Service.Action
import ServiceAdmin.Service.AppSummary
import ServiceAdmin.Service.Body

/-!
# Joining registrations with applications

Each registration gets the name of its platform application.  The names of the applications in the
current space are known from the start; the platform is asked for every other name, once.
-/

namespace ServiceAdmin.Registry

open Service (Action askPlatform ofExcept)

/-- The names of applications that are known, by GUID; of two for one GUID the first counts. -/
abbrev Names := List (String × String)

/-- The names in the current space; none if the platform does not list them. -/
def knownNames : Dialogue Service.interface Names := do
  match ← askPlatform .apps with
  | .ok apps => return (apps.map fun app => (app.guid, app.name)).reverse
  | .error _ => return []

/-- The name in the summary of an application. -/
def nameOfSummary (guid body : String) : Except Error String := do
  let summary ←
    (Service.decodeBody Service.AppSummary.shape "cf app summary" body).mapError .protocol
  if summary.code = 0 then .ok summary.name
  else .error <| .lookup <|
    .appNameUnresolved guid summary.description summary.code summary.errorCode

/-- Where the platform's API has the summary of an application. -/
def summaryPath (guid : String) : String := "/v2/apps/" ++ guid ++ "/summary"

/-- Asks the platform for the name of an application. -/
def askName (guid : String) : Action String := do
  match ← askPlatform (.curl (summaryPath guid)) with
  | .ok body => ofExcept id (nameOfSummary guid body)
  | .error e => throw (.platform e)

/-- The name of an application, and the names that are known then. -/
def nameFor (names : Names) (guid : String) : Action (String × Names) :=
  match names.lookup guid with
  | some name => pure (name, names)
  | none => do
    let name ← askName guid
    return (name, (guid, name) :: names)

/-- The records of registrations, in their order. -/
def join (names : Names) : List Registration → Action (List Record)
  | [] => pure []
  | r :: rest =>
    if r.metadata.appGuid = "" then do
      let records ← join names rest
      return .unbound r :: records
    else do
      let (name, names) ← nameFor names r.metadata.appGuid
      let records ← join names rest
      return .bound r name :: records

/-- The records of all applications of a registry. -/
def recordsOf (applications : List (List Registration)) : Action (List Record) := do
  let names ← knownNames
  join names applications.flatten

end ServiceAdmin.Registry
