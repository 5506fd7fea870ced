import ServiceAdmin.Report.BackingApp
import ServiceAdmin.Report.ByteSize
import ServiceAdmin.Report.Table
import ServiceAdmin.Report.Timestamp
import ServiceAdmin.Report.Wrap
import ServiceAdmin.Text.Lowercase

/-!
# The report of backing applications

Each application has a block of labelled lines and, behind a blank line, a table of its instances.
-/

namespace ServiceAdmin.Report

open Number (Magnitude Binary64)

/-- The width of the labels. -/
def labelWidth : Nat := 18

def buildpackWidth : Nat := 150

/-- A value behind its label. -/
def field (label value : String) : String :=
  label ++ String.ofList (List.replicate (labelWidth - label.length) ' ') ++ value ++ "\n"

/-- A processor load in percent, to one decimal place. -/
def percentage (load : Binary64) : String :=
  let percent : Binary64 := ⟨load.negative, (Magnitude.ofNat 100).mul load.magnitude⟩
  percent.fixed 1 ++ "%"

def instanceHeaders : List String := ["", "state", "since", "cpu", "memory", "disk", "details"]

def usage (used quota : Nat) : String := byteSize used ++ " of " ++ byteSize quota

/-- The cells of one instance. -/
def AppInstance.row (a : AppInstance) : List String :=
  ["#" ++ toString a.index, Text.lowercase a.state, rfc3339 a.since, percentage a.cpu,
    usage a.memoryUsage a.memoryQuota, usage a.diskUsage a.diskQuota, a.details]

/-- The block of one application. -/
def BackingApp.block (zone : Zone) (app : BackingApp) : String :=
  field "backing app name:" app.name ++
  field "requested state:" (Text.lowercase app.requestedState) ++
  field "instances:" s!"{app.runningInstances}/{app.numInstances}" ++
  field "usage:" (megabyteSize app.memory ++ s!" x {app.numInstances} instances") ++
  field "routes:" (", ".intercalate app.routes) ++
  field "last uploaded:" (localTime zone app.lastUploaded) ++
  field "stack:" app.stack ++
  field "buildpack:" (wrap app.buildpack buildpackWidth labelWidth) ++
  "\n" ++ table instanceHeaders (app.instances.map AppInstance.row)

/-- The report of all applications. -/
def view (zone : Zone) (apps : List BackingApp) : String :=
  "\n".intercalate (apps.map (BackingApp.block zone))

end ServiceAdmin.Report
