import ServiceAdmin.Text.Decomposition

/-!
# Canonical composition

Characters that combine with others can be written as a sequence or as one character.  `normal`
writes a text with as few characters as possible: characters are decomposed, the marks behind a
character are put in the order of their classes, and what can be composed is composed.
-/

namespace ServiceAdmin.Text

/-- The letters of a Hangul syllable. -/
def hangulLetters (c : Char) : List Char :=
  let n := c.toNat - 0xAC00
  let vowel := Char.ofNat (0x1161 + n % 588 / 28)
  let front := [Char.ofNat (0x1100 + n / 588), vowel]
  if n % 28 = 0 then front else front ++ [Char.ofNat (0x11A7 + n % 28)]

/-- The parts of a character, and of those in turn, to a depth that no character exceeds. -/
def decompose : Nat → Char → List Char
  | 0, c => [c]
  | depth + 1, c =>
    if 0xAC00 ≤ c.toNat && c.toNat ≤ 0xD7A3 then hangulLetters c
    else match decompositions.find? (·.whole = c.toNat) with
      | some d => (d.parts.map Char.ofNat).flatMap (decompose depth)
      | none => [c]

def decompositionDepth : Nat := 4

/-- Puts a character behind others, given from the last to the first, and before the marks among
them that have a greater class. -/
def insertMark (c : Char) : List Char → List Char
  | [] => [c]
  | d :: before =>
    if 0 < markClass c && markClass c < markClass d then d :: insertMark c before
    else c :: d :: before

/-- The one character for two. -/
def composePair? (a b : Char) : Option Char :=
  let m := a.toNat
  let n := b.toNat
  if 0x1100 ≤ m && m < 0x1113 && 0x1161 ≤ n && n < 0x1176 then
    some (Char.ofNat (0xAC00 + (m - 0x1100) * 588 + (n - 0x1161) * 28))
  else if 0xAC00 ≤ m && m ≤ 0xD7A3 && (m - 0xAC00) % 28 = 0 && 0x11A7 < n && n < 0x11C3 then
    some (Char.ofNat (m + (n - 0x11A7)))
  else (decompositions.find? fun d => d.composed && d.parts = [m, n]).map (Char.ofNat ·.whole)

/-- Composes the characters behind a `starter`, from which `marks`, the last one first, are kept. -/
def composeFrom (starter : Char) (marks : List Char) : List Char → List Char
  | [] => starter :: marks.reverse
  | c :: rest =>
    let free := match marks with
      | [] => true
      | m :: _ => markClass m < markClass c
    match if free then composePair? starter c else none with
    | some whole => composeFrom whole marks rest
    | none =>
      if markClass c = 0 then starter :: marks.reverse ++ composeFrom c [] rest
      else composeFrom starter (c :: marks) rest

/-- Composes a text whose marks are in order; marks at its front stay as they are. -/
def compose : List Char → List Char
  | [] => []
  | c :: rest => if markClass c = 0 then composeFrom c [] rest else c :: compose rest

/-- The canonical composition of a text. -/
def normal (s : List Char) : List Char :=
  let parts := s.flatMap (decompose decompositionDepth)
  compose (parts.foldl (fun before c => insertMark c before) []).reverse

end ServiceAdmin.Text
