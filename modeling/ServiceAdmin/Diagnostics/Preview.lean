import ServiceAdmin.Text.Blank
import ServiceAdmin.Text.Utf8

/-!
# Previews

The beginning of a body, on one line: line ends and tabs become spaces that do not follow a space.
-/

namespace ServiceAdmin.Diagnostics

def isLineBreak (c : Char) : Bool := c = '\n' || c = '\r' || c = '\t'

/-- The preview behind `size` octets, of which the last wrote a space if `spaced`. -/
def previewFrom (limit size : Nat) (spaced : Bool) : List Char → List Char
  | [] => []
  | c :: rest =>
    if limit ≤ size then ['.', '.', '.']
    else if isLineBreak c then
      if spaced then previewFrom limit size true rest
      else ' ' :: previewFrom limit (size + 1) true rest
    else c :: previewFrom limit (size + c.utf8Size) (c = ' ') rest

/-- The first `limit` octets of a text or a few more, marked if the text goes on. -/
def preview (text : String) (limit : Nat) : String :=
  if Text.isAllBlank text then "<empty>"
  else String.ofList (Text.trimChars (previewFrom limit 0 false text.toList))

end ServiceAdmin.Diagnostics
