import ServiceAdmin.Service.Instance

/-!
# Questions to the platform

What is asked of the platform that the user is logged in to.
-/

namespace ServiceAdmin.Platform

inductive Query
  /-- The service instance of a name in the current space. -/
  | service (name : String)
  /-- The applications in the current space. -/
  | apps
  | apiEndpoint
  /-- The access token as the platform prints it. -/
  | token
  /-- The body that the platform's API answers to a path. -/
  | curl (path : String)
  | username
  | org
  | space
  deriving DecidableEq, Repr

/-- The kind of value that answers a question. -/
abbrev Query.Value : Query → Type
  | service _ => Service.Instance
  | apps => List Service.App
  | apiEndpoint | token | curl _ | username | org | space => String

end ServiceAdmin.Platform
