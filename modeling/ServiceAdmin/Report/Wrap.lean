/-!
# Hard wrapping

A text that follows a label is cut into lines of equal length, without regard to words; the lines
behind the first are indented to the width of the label.
-/

namespace ServiceAdmin.Report

/-- Cuts into pieces of `n + 1` characters; the last may be shorter. -/
def chunks (n : Nat) (s : List Char) : List (List Char) :=
  match s with
  | [] => []
  | c :: rest => (c :: rest.take n) :: chunks n (rest.drop n)
termination_by s.length
decreasing_by
  simp only [List.length_drop, List.length_cons]
  omega

/-- The text with no line longer than `width` behind a label of `indent` columns; a line has at
least one character of the text. -/
def wrap (text : String) (width indent : Nat) : String :=
  let separator := '\n' :: List.replicate indent ' '
  String.ofList (separator.intercalate (chunks (width - indent - 1) text.toList))

end ServiceAdmin.Report
