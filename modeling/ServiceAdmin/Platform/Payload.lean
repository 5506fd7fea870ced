import ServiceAdmin.Json.Record
import ServiceAdmin.Service.Instance

/-!
# What the platform's API answers

Service instances come with the offerings and plans that they refer to, applications in a list, and
errors in place of either.
-/

namespace ServiceAdmin.Platform

open Json

/-- An error in an answer. -/
structure Complaint where
  title : String
  detail : String
  deriving DecidableEq, Repr

def Complaint.shape : Shape Complaint := .record {
  title := "CfError"
  blank := ⟨"", ""⟩
  members := [
    .free "title" .string fun v e => { e with title := v },
    .free "detail" .string fun v e => { e with detail := v }]
  closed := false }

/-- The errors in an answer. -/
def complaintsShape : Shape (List Complaint) := .record {
  title := "CfErrors"
  blank := []
  members := [.free "errors" (.list Complaint.shape) fun v _ => v]
  closed := false }

/-- The name of a resource. -/
def namedShape : Shape String := .record {
  title := "V3Named"
  blank := ""
  members := [.needed "name" .string fun v _ => v]
  closed := false }

/-- The names of the plans and the offerings that an answer includes. -/
structure Included where
  plans : List String
  offerings : List String
  deriving DecidableEq, Repr

def Included.shape : Shape Included := .record {
  title := "V3Included"
  blank := ⟨[], []⟩
  members := [
    .free "service_plans" (.list namedShape) fun v i => { i with plans := v },
    .free "service_offerings" (.list namedShape) fun v i => { i with offerings := v }]
  closed := false }

/-- A service instance as the API answers it. -/
structure InstanceAnswer where
  guid : String
  dashboardUrl : Option String
  included : Included
  deriving DecidableEq, Repr

def InstanceAnswer.shape : Shape InstanceAnswer := .record {
  title := "V3ServiceInstance"
  blank := ⟨"", none, ⟨[], []⟩⟩
  members := [
    .needed "guid" .string fun v a => { a with guid := v },
    .free "dashboard_url" (.optional .string) fun v a => { a with dashboardUrl := v },
    .free "included" Included.shape fun v a => { a with included := v }]
  closed := false }

/-- The service instance of a name; the first plan and the first offering are its own. -/
def InstanceAnswer.toInstance (answer : InstanceAnswer) (name : String) : Service.Instance where
  name := name
  guid := answer.guid
  dashboardUrl := answer.dashboardUrl.getD ""
  offeringName := answer.included.offerings.headD ""
  planName := answer.included.plans.headD ""

def appShape : Shape Service.App := .record {
  title := "V3App"
  blank := ⟨"", ""⟩
  members := [
    .needed "guid" .string fun v a => { a with guid := v },
    .needed "name" .string fun v a => { a with name := v }]
  closed := false }

/-- A list of applications. -/
def appsShape : Shape (List Service.App) := .record {
  title := "V3Apps"
  blank := []
  members := [.free "resources" (.list appShape) fun v _ => v]
  closed := false }

end ServiceAdmin.Platform
