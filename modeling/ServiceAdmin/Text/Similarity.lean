/-!
# Similarity of words

How much two words have in common, from 0 to 1, after Jaro: characters match if they are equal and
not too far from each other, and matched characters count for less where their orders differ.
-/

namespace ServiceAdmin.Text

/-- Takes the first free `c` between the places `low` and `high`; taken characters are marked. -/
def takeMatch (c : Char) (low high : Nat) : List (Char × Bool) → Option (List (Char × Bool))
  | [] => none
  | (d, taken) :: rest =>
    if high = 0 then none
    else if low = 0 && c = d && !taken then some ((d, true) :: rest)
    else (takeMatch c (low - 1) (high - 1) rest).map ((d, taken) :: ·)

/-- Matches the characters from place `i` on; gives the matched ones and the marks that are left. -/
def matchFrom (range i : Nat) : List Char → List (Char × Bool) → List Char × List (Char × Bool)
  | [], marks => ([], marks)
  | c :: rest, marks =>
    match takeMatch c (i - range) (i + range + 1) marks with
    | some marks =>
      let (found, marks) := matchFrom range (i + 1) rest marks
      (c :: found, marks)
    | none => matchFrom range (i + 1) rest marks

/-- The matched characters of two words, each in the order of its word. -/
def matched (a b : List Char) : List Char × List Char :=
  let (found, marks) := matchFrom (max a.length b.length / 2 - 1) 0 a (b.map (·, false))
  (found, (marks.filter (·.2)).map (·.1))

/-- The similarity of two words. -/
def similarity (a b : List Char) : Float :=
  if a.isEmpty && b.isEmpty then 1
  else
    let (x, y) := matched a b
    let found := x.length
    if found = 0 then 0
    else
      let moved := ((x.zip y).filter fun (c, d) => c ≠ d).length / 2
      (found.toFloat / a.length.toFloat + found.toFloat / b.length.toFloat +
        (found - moved).toFloat / found.toFloat) / 3

/-- Adds a word behind those that are not more similar. -/
def insertRanked (x : Float × String) : List (Float × String) → List (Float × String)
  | [] => [x]
  | y :: ys => if x.1 < y.1 then x :: y :: ys else y :: insertRanked x ys

/-- The words that are similar to a word, the most similar one last. -/
def similarTo (word : String) (words : List String) : List String :=
  let ranked := (words.map fun w => (similarity word.toList w.toList, w)).filter (0.7 < ·.1)
  (ranked.foldl (fun found x => insertRanked x found) []).map (·.2)

end ServiceAdmin.Text
