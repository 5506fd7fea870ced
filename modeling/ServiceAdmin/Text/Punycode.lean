/-!
# Punycode

A text is written in ASCII letters, digits and hyphens: its ASCII characters come first, and behind
the last hyphen are the positions of the others as numbers of variable length in base 36, in
increasing order of the characters.
-/

namespace ServiceAdmin.Text.Punycode

/-- The digit of a value below 36. -/
def digitChar (d : Nat) : Char :=
  if d < 26 then Char.ofNat ('a'.toNat + d) else Char.ofNat ('0'.toNat + (d - 26))

def digitValue? (c : Char) : Option Nat :=
  if 'a' ≤ c && c ≤ 'z' then some (c.toNat - 'a'.toNat)
  else if 'A' ≤ c && c ≤ 'Z' then some (c.toNat - 'A'.toNat)
  else if '0' ≤ c && c ≤ '9' then some (c.toNat - '0'.toNat + 26)
  else none

/-- The threshold of the digit at place `k`, which counts in steps of 36. -/
def threshold (k bias : Nat) : Nat := min (max (k - bias) 1) 26

/-- Divides `delta` by 35 until it is at most 455. -/
def shrink (delta k : Nat) : Nat × Nat :=
  if 455 < delta then shrink (delta / 35) (k + 36) else (delta, k)
termination_by delta
decreasing_by omega

/-- The bias for the next number behind `delta`, with `count` characters handled. -/
def adapt (delta count : Nat) (first : Bool) : Nat :=
  let delta := if first then delta / 700 else delta / 2
  let (delta, k) := shrink (delta + delta / count) 0
  k + 36 * delta / (delta + 38)

/-- A number of variable length. -/
def writeNumber (q k bias : Nat) : List Char :=
  let t := threshold k bias
  if q < t then [digitChar q]
  else digitChar (t + (q - t) % (36 - t)) :: writeNumber ((q - t) / (36 - t)) (k + 36) bias
termination_by q
decreasing_by
  have : 1 ≤ threshold k bias := by unfold threshold; omega
  have : (q - threshold k bias) / (36 - threshold k bias) ≤ q - threshold k bias :=
    Nat.div_le_self _ _
  omega

/-- Where the writing of the characters that are not ASCII stands. -/
structure State where
  delta : Nat
  bias : Nat
  /-- How many characters are written. -/
  handled : Nat
  /-- Whether a number has not been written yet. -/
  first : Bool

/-- Passes over the text once and writes a number for each occurrence of `n`. -/
def writePass (n : Nat) : State → List Nat → State × List Char
  | st, [] => (st, [])
  | st, c :: rest =>
    if c < n then writePass n { st with delta := st.delta + 1 } rest
    else if c = n then
      let count := st.handled + 1
      let (st', out) := writePass n ⟨0, adapt st.delta count st.first, count, false⟩ rest
      (st', writeNumber st.delta 36 st.bias ++ out)
    else writePass n st rest

/-- Writes the occurrences of the code points `ns`, which increase, and of which the next possible
one is `n`. -/
def writeOthers (text : List Nat) (n : Nat) (st : State) : List Nat → List Char
  | [] => []
  | m :: ms =>
    let st := { st with delta := st.delta + (m - n) * (st.handled + 1) }
    let (st, out) := writePass m st text
    out ++ writeOthers text (m + 1) { st with delta := st.delta + 1 } ms

/-- The distinct code points in increasing order. -/
def distinct (ns : List Nat) : List Nat :=
  (ns.mergeSort (· ≤ ·)).eraseReps

def encode (s : List Char) : List Char :=
  let ascii := s.filter fun c => c.toNat < 0x80
  let others := distinct ((s.filter fun c => 0x80 ≤ c.toNat).map Char.toNat)
  let front := if ascii.isEmpty then [] else ascii ++ ['-']
  front ++ writeOthers (s.map Char.toNat) 0x80 ⟨0, 72, ascii.length, true⟩ others

/-- Reads a number of variable length behind `i`, whose next digit has the weight `w`. -/
def readNumber? (bias : Nat) : Nat → Nat → Nat → List Char → Option (Nat × List Char)
  | _, _, _, [] => none
  | i, w, k, c :: rest => do
    let d ← digitValue? c
    let i := i + d * w
    let t := threshold k bias
    if d < t then some (i, rest)
    else readNumber? bias i (w * (36 - t)) (k + 36) rest

theorem length_of_readNumber? {bias i w k j : Nat} {s r : List Char}
    (h : readNumber? bias i w k s = some (j, r)) : r.length < s.length := by
  induction s generalizing i w k with
  | nil => cases h
  | cons c s ih =>
    simp only [readNumber?, Option.bind_eq_bind, Option.bind_eq_some_iff] at h
    obtain ⟨d, _, h⟩ := h
    split at h
    · cases h; simp
    · exact Nat.lt_succ_of_lt (ih h)

/-- Puts a character at a place of a text. -/
def insertAt (c : Char) : Nat → List Char → List Char
  | 0, s => c :: s
  | _ + 1, [] => [c]
  | i + 1, d :: s => d :: insertAt c i s

/-- Whether a number is that of a character. -/
def isScalar (n : Nat) : Bool := n < 0xD800 || (0xDFFF < n && n < 0x110000)

/-- Inserts the characters whose places the digits tell. -/
def readOthers? (n i bias : Nat) (text : List Char) (s : List Char) : Option (List Char) :=
  match s with
  | [] => some text
  | c :: rest =>
    match _h : readNumber? bias i 1 36 (c :: rest) with
    | none => none
    | some (j, r) =>
      let count := text.length + 1
      let n := n + j / count
      if isScalar n then
        readOthers? n (j % count + 1) (adapt (j - i) count (i = 0))
          (insertAt (Char.ofNat n) (j % count) text) r
      else none
termination_by s.length
decreasing_by exact length_of_readNumber? _h

/-- The part before the last hyphen and the part behind it; a hyphen at the front is none. -/
def splitLast (s : List Char) : List Char × List Char :=
  let digits := (s.reverse.takeWhile (· ≠ '-')).reverse
  match s.take (s.length - digits.length - 1) with
  | [] => ([], s)
  | ascii => (ascii, digits)

/-- The text that is written, unless it is no Punycode. -/
def decode? (s : List Char) : Option (List Char) :=
  let (ascii, digits) := splitLast s
  if ascii.all fun c => c.toNat < 0x80 then readOthers? 0x80 0 72 ascii digits else none

end ServiceAdmin.Text.Punycode
