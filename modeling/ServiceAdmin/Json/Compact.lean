import ServiceAdmin.Json.Value
import ServiceAdmin.Json.Write

/-!
# Compact texts

Values of any shape are written without blanks.  How a number is written is left to the caller.
-/

namespace ServiceAdmin.Json

mutual

/-- The text of a value. -/
def Value.compact (numeral : Numeral → List Char) : Value → List Char
  | .null => ['n', 'u', 'l', 'l']
  | .boolean true => ['t', 'r', 'u', 'e']
  | .boolean false => ['f', 'a', 'l', 's', 'e']
  | .number n => numeral n
  | .string s => writeString s
  | .list items => '[' :: [','].intercalate (compactItems numeral items) ++ [']']
  | .object members => '\x7b' :: [','].intercalate (compactMembers numeral members) ++ ['\x7d']
termination_by structural v => v

def compactItems (numeral : Numeral → List Char) : List Value → List (List Char)
  | [] => []
  | v :: vs => v.compact numeral :: compactItems numeral vs
termination_by structural vs => vs

def compactMembers (numeral : Numeral → List Char) : List (String × Value) → List (List Char)
  | [] => []
  | (k, v) :: ms => (writeString k ++ ':' :: v.compact numeral) :: compactMembers numeral ms
termination_by structural ms => ms

end

theorem compactMembers_append (numeral : Numeral → List Char) (ms ns : List (String × Value)) :
    compactMembers numeral (ms ++ ns) = compactMembers numeral ms ++ compactMembers numeral ns := by
  induction ms with
  | nil => rfl
  | cons m ms ih =>
    rw [List.cons_append, compactMembers, compactMembers, ih]
    rfl

end ServiceAdmin.Json
