import ServiceAdmin.Text.Blank

/-!
# The target of the platform's command line

`cf target` prints what the user is logged in to, one labelled value on a line.
-/

namespace ServiceAdmin.Platform

structure Target where
  apiEndpoint : Option String
  user : Option String
  org : Option String
  space : Option String
  deriving DecidableEq, Repr

/-- Whether two texts are equal but for the case of ASCII letters. -/
def sameLetters (a b : List Char) : Bool := a.map Char.toLower = b.map Char.toLower

/-- The value on a line with the label, if it is not empty. -/
def lineValue? (label : String) (line : List Char) : Option String := do
  let (name, value) ← Text.cutAt? ':' line
  let value := Text.trimChars value
  if sameLetters (Text.trimChars name) label.toList && !value.isEmpty then
    some (String.ofList value)
  else none

/-- The value on the first line that has one for the label. -/
def labelled? (output label : String) : Option String :=
  (Text.lines output.toList).findSome? (lineValue? label)

/-- The target that `cf target` printed. -/
def Target.ofOutput (output : String) : Target where
  apiEndpoint := labelled? output "API endpoint"
  user := labelled? output "user"
  org := labelled? output "org"
  space := labelled? output "space"

end ServiceAdmin.Platform
