import ServiceAdmin.Json.Record

/-!
# Application summaries

What the platform says of one application: its name, or an error with a code that is not zero.
-/

namespace ServiceAdmin.Service

open Json

structure AppSummary where
  name : String
  code : Int
  description : String
  errorCode : String
  deriving DecidableEq, Repr

def AppSummary.shape : Shape AppSummary := .record {
  title := "CfAppSummaryResponse"
  blank := ⟨"", 0, "", ""⟩
  members := [
    .free "name" .string fun v a => { a with name := v },
    .free "code" .integer64 fun v a => { a with code := v },
    .free "description" .string fun v a => { a with description := v },
    .free "error_code" .string fun v a => { a with errorCode := v }]
  closed := false }

end ServiceAdmin.Service
