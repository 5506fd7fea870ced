import ServiceAdmin.Text.Blank
import ServiceAdmin.Url.Percent

/-!
# Numeric hosts

An address of version 4 is one to four numbers, of which the last fills all octets that the others
leave; each is decimal, octal with a leading `0`, or hexadecimal with a leading `0x`.  An address
of version 6 is eight hexadecimal pieces, of which one run of zeros may be left out and the last
two may be written as an address of version 4.
-/

namespace ServiceAdmin.Url

/-- The value of digits of a base. -/
def digitsValue? (base : Nat) (s : List Char) : Option Nat :=
  s.foldlM (fun n c => do
    let d ← hexValue? c
    if d < base then some (n * base + d) else none) 0

/-- A number of an address of version 4. -/
def addressNumber? : List Char → Option Nat
  | [] => none
  | '0' :: 'x' :: s => digitsValue? 16 s
  | '0' :: 'X' :: s => digitsValue? 16 s
  | '0' :: s => digitsValue? 8 s
  | s => digitsValue? 10 s

/-- The labels of a host, without an empty last one. -/
def hostLabels (host : List Char) : List (List Char) :=
  let labels := Text.pieces '.' host
  match labels.reverse with
  | [] :: rest@(_ :: _) => rest.reverse
  | _ => labels

/-- Whether the last label is a number, so that the host must be an address. -/
def endsInNumber (host : List Char) : Bool :=
  match (hostLabels host).getLast? with
  | some last => (!last.isEmpty && last.all Char.isDigit) || (addressNumber? last).isSome
  | none => false

/-- The value of an address of version 4. -/
def address4? (host : List Char) : Option Nat := do
  let labels := hostLabels host
  if 4 < labels.length then none
  let numbers ← labels.mapM addressNumber?
  match numbers.reverse with
  | [] => none
  | last :: firsts =>
    let firsts := firsts.reverse
    if firsts.any (255 < ·) || Nat.pow 256 (4 - firsts.length) ≤ last then none
    else
      let high := firsts.foldl (fun n x => n * 256 + x) 0
      some (high * Nat.pow 256 (4 - firsts.length) + last)

/-- An address of version 4 with its four octets in decimal. -/
def address4Text (n : Nat) : String :=
  ".".intercalate ([n / 0x1000000 % 256, n / 0x10000 % 256, n / 0x100 % 256, n % 256].map toString)

/-- Reads up to four hexadecimal digits. -/
def piece (s : List Char) : Option Nat × List Char :=
  let digits := (s.take 4).takeWhile fun c => (hexValue? c).isSome
  (if digits.isEmpty then none else digitsValue? 16 digits, s.drop digits.length)

/-- One of the four octets in decimal: without a leading zero and at most 255. -/
def octet? (s : List Char) : Option Nat :=
  match s with
  | ['0'] => some 0
  | '0' :: _ => none
  | [] => none
  | s => do
    let n ← digitsValue? 10 s
    if n ≤ 255 then some n else none

/-- The two pieces that four octets stand for. -/
def octetPieces? (s : List Char) : Option (List Nat) := do
  match ← (Text.pieces '.' s).mapM octet? with
  | [a, b, c, d] => some [a * 256 + b, c * 256 + d]
  | _ => none

/-- Reads pieces separated by colons; the second part of the result stands behind a double colon, if
there is one.  `fuel` bounds the number of pieces. -/
def pieces6? : Nat → List Char → Option (List Nat × Option (List Char))
  | 0, _ => none
  | fuel + 1, s =>
    match piece s with
    | (none, _) => none
    | (some n, []) => some ([n], none)
    | (some n, ':' :: ':' :: rest) => some ([n], some rest)
    | (some n, ':' :: rest) =>
      (pieces6? fuel rest).map fun (ps, tail) => (n :: ps, tail)
    | (some _, '.' :: _) => (octetPieces? s).map fun ps => (ps, none)
    | (some _, _ :: _) => none

/-- The eight pieces of an address of version 6. -/
def address6? (s : List Char) : Option (List Nat) := do
  let (front, tail) ← match s with
    | ':' :: ':' :: rest => some ([], some rest)
    | s => pieces6? 9 s
  match tail with
  | none => if front.length = 8 then some front else none
  | some rest =>
    let (back, again) ← if rest.isEmpty then some ([], none) else pieces6? 9 rest
    if again.isSome then none
    let missing := 8 - (front.length + back.length)
    if missing = 0 then none else some (front ++ List.replicate missing 0 ++ back)

/-- The length of the run of zeros at the front. -/
def zeroRun (pieces : List Nat) : Nat := (pieces.takeWhile (· = 0)).length

/-- Start and length of the first of the longest runs of zeros. -/
def longestZeroRun : Nat → List Nat → Nat × Nat
  | _, [] => (0, 0)
  | start, p :: ps =>
    let here := zeroRun (p :: ps)
    let (s, n) := longestZeroRun (start + 1) ps
    if n ≤ here then (start, here) else (s, n)

def pieceText (p : Nat) : String := String.ofList (Nat.toDigits 16 p)

/-- An address of version 6 without its longest run of at least two zeros. -/
def address6Text (pieces : List Nat) : String :=
  let (start, length) := longestZeroRun 0 pieces
  let shown (ps : List Nat) := ":".intercalate (ps.map pieceText)
  if length < 2 then shown pieces
  else shown (pieces.take start) ++ "::" ++ shown (pieces.drop (start + length))

end ServiceAdmin.Url
