import ServiceAdmin.Json.Record

/-!
# Backing applications

The platform applications that run a service instance, and their instances, as a broker lists them.
Times are counts of milliseconds since 1970, in UTC.
-/

namespace ServiceAdmin.Report

open Json

/-- An instance of a backing application.  The processor load is a fraction of one core; memory and
disk are counted in bytes. -/
structure AppInstance where
  index : Nat
  state : String
  since : Int
  cpu : Number.Binary64
  memoryUsage : Nat
  memoryQuota : Nat
  diskUsage : Nat
  diskQuota : Nat
  details : String
  deriving DecidableEq, Repr

/-- A backing application.  The memory limit of each instance is counted in megabytes. -/
structure BackingApp where
  name : String
  buildpack : String
  stack : String
  memory : Nat
  numInstances : Nat
  runningInstances : Nat
  requestedState : String
  routes : List String
  lastUploaded : Int
  instances : List AppInstance
  deriving DecidableEq, Repr

def AppInstance.shape : Shape AppInstance := .record {
  title := "BackingAppInstance"
  blank := ⟨0, "", 0, ⟨false, .zero⟩, 0, 0, 0, 0, ""⟩
  members := [
    .needed "index" .natural32 fun v a => { a with index := v },
    .free "state" .string fun v a => { a with state := v },
    .free "since" .integer64 fun v a => { a with since := v },
    .free "cpu" .floating fun v a => { a with cpu := v },
    .free "memory_usage" .natural64 fun v a => { a with memoryUsage := v },
    .free "memory_quota" .natural64 fun v a => { a with memoryQuota := v },
    .free "disk_usage" .natural64 fun v a => { a with diskUsage := v },
    .free "disk_quota" .natural64 fun v a => { a with diskQuota := v },
    .free "details" .string fun v a => { a with details := v }]
  closed := false }

def BackingApp.shape : Shape BackingApp := .record {
  title := "BackingApp"
  blank := ⟨"", "", "", 0, 0, 0, "", [], 0, []⟩
  members := [
    .needed "name" .string fun v a => { a with name := v },
    .free "buildpack" .string fun v a => { a with buildpack := v },
    .free "stack" .string fun v a => { a with stack := v },
    .free "memory" .natural64 fun v a => { a with memory := v },
    .free "num_instances" .natural32 fun v a => { a with numInstances := v },
    .free "running_instances" .natural32 fun v a => { a with runningInstances := v },
    .free "requested_state" .string fun v a => { a with requestedState := v },
    .free "routes" (.list .string) fun v a => { a with routes := v },
    .free "last_uploaded" .integer64 fun v a => { a with lastUploaded := v },
    .free "instances" (.list AppInstance.shape) fun v a => { a with instances := v }]
  closed := false }

/-- The backing applications of a service instance. -/
def backingAppsShape : Shape (List BackingApp) := .record {
  title := "ViewInstanceResponse"
  blank := []
  members := [.free "backing_apps" (.list BackingApp.shape) fun v _ => v]
  closed := false }

end ServiceAdmin.Report
