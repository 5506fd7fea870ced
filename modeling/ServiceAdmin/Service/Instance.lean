import ServiceAdmin.Json.Record

/-!
# Service instances

A managed service instance as the platform knows it.  The name of its offering tells which of the
two generations of service brokers runs it.
-/

namespace ServiceAdmin.Service

/-- A managed service instance. -/
structure Instance where
  /-- The name the user gave it. -/
  name : String
  guid : String
  /-- The page for its users, from which the administrative URLs are derived. -/
  dashboardUrl : String
  offeringName : String
  planName : String
  deriving DecidableEq, Repr

/-- The two generations of service brokers. -/
inductive Generation
  /-- The broker serves the dashboard, and the administrative endpoints with it. -/
  | embedded
  /-- One broker of the platform serves the lifecycle of all instances. -/
  | central
  deriving DecidableEq, Repr

/-- Offerings of the embedded generation have names that begin with `p-`. -/
def Generation.ofOffering (name : String) : Generation :=
  if ['p', '-'].isPrefixOf name.toList then .embedded else .central

def Instance.generation (service : Instance) : Generation := .ofOffering service.offeringName

open Json in
/-- A service instance as a JSON record. -/
def Instance.shape : Shape Instance := .record {
  title := "ServiceInstance"
  blank := ⟨"", "", "", "", ""⟩
  members := [
    .needed "name" .string fun v s => { s with name := v },
    .needed "guid" .string fun v s => { s with guid := v },
    .needed "dashboardUrl" .string fun v s => { s with dashboardUrl := v },
    .needed "offeringName" .string fun v s => { s with offeringName := v },
    .free "planName" .string fun v s => { s with planName := v }]
  closed := false }

/-- An application of the platform. -/
structure App where
  name : String
  guid : String
  deriving DecidableEq, Repr

end ServiceAdmin.Service
