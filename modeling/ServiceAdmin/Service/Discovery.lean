import ServiceAdmin.Json.Record

/-!
# What a broker says of a service instance

A broker of the embedded generation tells where the running service is: the record has a record of
credentials, and that has the URI.
-/

namespace ServiceAdmin.Service

open Json

/-- The credentials of a service instance, of which only the URI is read. -/
def credentials : Shape String := .record {
  title := "ServiceInstanceCredentials"
  blank := ""
  members := [.free "uri" .string fun v _ => v]
  closed := false }

/-- The URI of a running service. -/
def discovery : Shape String := .record {
  title := "ServiceInstanceResponse"
  blank := ""
  members := [.free "credentials" credentials fun v _ => v]
  closed := false }

end ServiceAdmin.Service
