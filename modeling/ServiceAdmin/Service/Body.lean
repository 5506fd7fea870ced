import ServiceAdmin.Diagnostics.Preview
import ServiceAdmin.Diagnostics.Redaction
import ServiceAdmin.Error
import ServiceAdmin.Json.Decode

/-!
# Response bodies

A body is decoded strictly; if that fails, the error quotes its redacted beginning.
-/

namespace ServiceAdmin.Service

def bodyPreviewLimit : Nat := 200

/-- The value that the body of a response to `what` writes. -/
def decodeBody {α : Type} (shape : Json.Shape α) (what body : String) : Except ProtocolError α :=
  match Json.decodeText shape body with
  | .ok a => .ok a
  | .error reason =>
    .error (.decode what reason (Diagnostics.redact (Diagnostics.preview body bodyPreviewLimit)))

end ServiceAdmin.Service
