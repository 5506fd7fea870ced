import ServiceAdmin.Error
import ServiceAdmin.Url.Origin

/-!
# Administrative endpoints

The URLs from which a service instance is administered are derived from two others: that of its
dashboard, whose last segment is the GUID of the instance, and that of the platform's API, whose
host becomes the host of the central broker when its first label is replaced.
-/

namespace ServiceAdmin.Service

def parseUrl (raw : String) : Except ResolveError Url :=
  (Url.parse raw).mapError fun fault => .invalidUrl raw fault.message

/-- The origin of a dashboard URL and the last segment of its path that is not empty. -/
def dashboardOriginAndGuid (dashboard : String) : Except ResolveError (String × String) := do
  let url ← parseUrl dashboard
  match (url.segments.filter (· ≠ "")).getLast? with
  | some guid => .ok (url.origin, guid)
  | none => .error (.invalidDashboardPath dashboard)

/-- The path below which a broker manages its instances. -/
def managementPath : String := "/cli/instances"

/-- Where the broker of the dashboard manages the instance. -/
def managementUrl (dashboard : String) : Except ResolveError String := do
  let (origin, guid) ← dashboardOriginAndGuid dashboard
  .ok (origin ++ managementPath ++ "/" ++ guid)

/-- The root of the server of the dashboard. -/
def dashboardRootUrl (dashboard : String) : Except ResolveError String := do
  let url ← parseUrl dashboard
  .ok (url.origin ++ "/")

/-- What follows the first label of a host, if that is not empty. -/
def systemDomain? (url : Url) : Option String := do
  let host ← url.hostText?
  match Text.cutAt? '.' host.toList with
  | some (_, c :: rest) => some (String.ofList (c :: rest))
  | _ => none

/-- The central broker of the platform with the given API; `hostPrefix` replaces the first label of
the API's host. -/
def brokerBaseUrl (api hostPrefix : String) : Except ResolveError String := do
  let url ← parseUrl api
  match systemDomain? url with
  | some domain => .ok (url.scheme ++ "://" ++ hostPrefix ++ domain ++ Url.portText url.port)
  | none => .error (.apiEndpoint api)

end ServiceAdmin.Service
