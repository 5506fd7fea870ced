import ServiceAdmin.Json.Reader
import ServiceAdmin.Number.Binary64

/-!
# Reading numbers

A numeral without fraction and exponent whose value fits in 64 bits is a whole number.  Every other
numeral is a binary64 number: its leading digits make a 64-bit significand, further digits only
move the decimal exponent, and the significand is scaled by a rounded power of ten.
-/

namespace ServiceAdmin.Json

open ServiceAdmin.Number (digit? max64 Magnitude Binary64)

/-- A number as it is read. -/
inductive Numeral
  | whole (n : Int)
  | floating (x : Binary64)
  deriving DecidableEq, Repr

/-- How a binary64 number is written in a message: by the fewest digits that read back, and
positionally if the leading digit stands for a power from `10 ^ -5` to `10 ^ 15`. -/
def writeFloating (x : Binary64) : String :=
  let sign := if x.negative then "-" else ""
  match x.magnitude with
  | .infinite => sign ++ "inf"
  | .finite m e =>
    let (digits, k) := Binary64.shortest m e
    let shown := Nat.toDigits 10 digits
    let lead : Int := k + shown.length - 1
    let body : List Char :=
      if digits = 0 then ['0', '.', '0']
      else if 0 ≤ k ∧ lead ≤ 15 then shown ++ List.replicate k.toNat '0' ++ ['.', '0']
      else if 0 ≤ lead ∧ lead ≤ 15 then
        shown.take (lead.toNat + 1) ++ ['.'] ++ shown.drop (lead.toNat + 1)
      else if -5 ≤ lead ∧ lead < 0 then
        ['0', '.'] ++ List.replicate (-lead - 1).toNat '0' ++ shown
      else
        let fraction := if shown.length = 1 then [] else ['.'] ++ shown.drop 1
        let mark := if lead < 0 then ['e', '-'] else ['e', '+']
        shown.take 1 ++ fraction ++ mark ++ (Number.padded 2 lead.natAbs).toList
    sign ++ String.ofList body

def Numeral.found : Numeral → Found
  | .whole n => .integer n
  | .floating x => .floating (writeFloating x)

def isDigit (c : Char) : Bool := (digit? c).isSome

def skipDigits (s : List Char) : List Char := s.dropWhile isDigit

theorem length_skipDigits (s : List Char) : (skipDigits s).length ≤ s.length :=
  (List.dropWhile_suffix _).length_le

/-- Reads digits as long as the significand stays within 64 bits; tells how many were read. -/
def significand (value count : Nat) : List Char → (Nat × Nat) × List Char
  | [] => ((value, count), [])
  | c :: s =>
    match digit? c with
    | some d =>
      if max64 < 10 * value + d then ((value, count), c :: s)
      else significand (10 * value + d) (count + 1) s
    | none => ((value, count), c :: s)

/-- The magnitude `f * 10 ^ e`, scaled in steps of at most `10 ^ 308`; a result that is not finite
is none. -/
def scale? (f : Magnitude) (e : Int) : Option Magnitude :=
  if e.natAbs ≤ 308 then
    if 0 ≤ e then
      match f.mul (Magnitude.powTen e.natAbs) with
      | .infinite => none
      | g => some g
    else some (f.div (Magnitude.powTen e.natAbs))
  else if f.isZero then some f
  else if 0 ≤ e then none
  else scale? (f.div (Magnitude.powTen 308)) (e + 308)
termination_by e.natAbs
decreasing_by omega

/-- The number of a sign, a significand and a decimal exponent, with `s` left behind it. -/
def scaled (negative : Bool) (m : Nat) (e : Int) : Reader Numeral := fun s =>
  match scale? (Magnitude.ofNat m) e with
  | none => .error (failAt s .numberOutOfRange)
  | some f => .ok (.floating ⟨negative, f⟩, s)

def maxExponent : Nat := Nat.pow 2 31 - 1

/-- Reads the digits of an exponent; a value beyond the limit ends the reading. -/
def exponentDigits (value : Nat) : List Char → Option Nat × List Char
  | [] => (some value, [])
  | c :: s =>
    match digit? c with
    | some d =>
      if maxExponent < 10 * value + d then (none, s) else exponentDigits (10 * value + d) s
    | none => (some value, c :: s)

/-- Whether an exponent is negative, and what follows its sign. -/
def exponentSign : List Char → Bool × List Char
  | '+' :: s => (false, s)
  | '-' :: s => (true, s)
  | s => (false, s)

/-- Reads an exponent behind its mark, for a significand and the exponent it has so far. -/
def exponent (negative : Bool) (m : Nat) (e : Int) : Reader Numeral := fun s =>
  match exponentSign s with
  | (_, []) => .error ⟨.endInValue, 0⟩
  | (below, c :: s) =>
    match digit? c with
    | none => .error (failOn (c :: s) .invalidNumber)
    | some d =>
      match exponentDigits d s with
      | (some n, s) => scaled negative m (if below then e - n else e + n) s
      | (none, s) =>
        if m ≠ 0 ∧ !below then .error (failAt s .numberOutOfRange)
        else .ok (.floating ⟨negative, .zero⟩, skipDigits s)

/-- Reads an exponent if there is one. -/
def exponent? (negative : Bool) (m : Nat) (e : Int) : Reader Numeral
  | 'e' :: s => exponent negative m e s
  | 'E' :: s => exponent negative m e s
  | s => scaled negative m e s

/-- Reads a fraction behind its point. -/
def fraction (negative : Bool) (m : Nat) (e : Int) : Reader Numeral := fun s =>
  match significand m 0 s with
  | ((m', count), c :: rest) =>
    if isDigit c then exponent? negative m' (e - count) (skipDigits rest)
    else if count = 0 then .error (failOn (c :: rest) .invalidNumber)
    else exponent? negative m' (e - count) (c :: rest)
  | ((m', count), []) =>
    if count = 0 then .error ⟨.endInValue, 0⟩ else exponent? negative m' (e - count) []

/-- Reads what follows the whole digits of a number: `e` of them were too many for `m`. -/
def afterDigits (negative : Bool) (m e : Nat) : Reader Numeral
  | '.' :: s => fraction negative m e s
  | 'e' :: s => exponent negative m e s
  | 'E' :: s => exponent negative m e s
  | s =>
    if e ≠ 0 then scaled negative m e s
    else if negative then
      if m = 0 ∨ Nat.pow 2 63 < m then .ok (.floating ⟨true, Magnitude.ofNat m⟩, s)
      else .ok (.whole (-(m : Int)), s)
    else .ok (.whole m, s)

/-- Reads a number without its sign. -/
def unsigned (negative : Bool) : Reader Numeral
  | [] => .error ⟨.endInValue, 0⟩
  | c :: s =>
    match digit? c with
    | none => .error (failOn (c :: s) .invalidNumber)
    | some 0 =>
      match s with
      | d :: _ =>
        if isDigit d then .error (failOn s .invalidNumber) else afterDigits negative 0 0 s
      | [] => afterDigits negative 0 0 []
    | some d =>
      let ((m, _), s) := significand d 0 s
      afterDigits negative m (s.takeWhile isDigit).length (skipDigits s)

/-- Reads a number. -/
def numeral : Reader Numeral
  | '-' :: s => unsigned true s
  | s => unsigned false s

/-- Passes over the exponent of a number behind its mark. -/
def skipExponent (s : List Char) : Except Failure (List Char) :=
  match (exponentSign s).2 with
  | [] => .error ⟨.invalidNumber, 0⟩
  | c :: s =>
    if isDigit c then .ok (skipDigits s) else .error (failOn (c :: s) .invalidNumber)

/-- Passes over what follows the whole digits of a number. -/
def skipAfterDigits : List Char → Except Failure (List Char)
  | '.' :: [] => .error ⟨.invalidNumber, 0⟩
  | '.' :: c :: s =>
    if isDigit c then
      match skipDigits s with
      | 'e' :: s => skipExponent s
      | 'E' :: s => skipExponent s
      | s => .ok s
    else .error (failOn (c :: s) .invalidNumber)
  | 'e' :: s => skipExponent s
  | 'E' :: s => skipExponent s
  | s => .ok s

/-- Passes over a number without its sign. -/
def skipUnsigned : List Char → Except Failure (List Char)
  | [] => .error ⟨.invalidNumber, 0⟩
  | c :: s =>
    if c = '0' then
      match s with
      | d :: _ => if isDigit d then .error (failOn s .invalidNumber) else skipAfterDigits s
      | [] => .ok []
    else if isDigit c then skipAfterDigits (skipDigits s)
    else .error (failOn (c :: s) .invalidNumber)

theorem length_exponentSign (s : List Char) : (exponentSign s).2.length ≤ s.length := by
  unfold exponentSign
  split <;> simp

theorem length_of_exponentDigits {v : Nat} {s : List Char} :
    (exponentDigits v s).2.length ≤ s.length := by
  induction s generalizing v with
  | nil => simp [exponentDigits]
  | cons c s ih =>
    simp only [exponentDigits]
    split
    · split
      · simp
      · exact Nat.le_succ_of_le ih
    · simp

theorem length_of_significand {v n : Nat} {s : List Char} :
    (significand v n s).2.length ≤ s.length := by
  induction s generalizing v n with
  | nil => simp [significand]
  | cons c s ih =>
    simp only [significand]
    split
    · split
      · simp
      · exact Nat.le_succ_of_le ih
    · simp

theorem length_of_scaled {b : Bool} {m : Nat} {e : Int} {s r : List Char} {n : Numeral}
    (h : scaled b m e s = .ok (n, r)) : r.length ≤ s.length := by
  simp only [scaled] at h
  split at h
  · cases h
  · cases h; exact Nat.le_refl _

theorem length_of_exponent {b : Bool} {m : Nat} {e : Int} {s r : List Char} {n : Numeral}
    (h : exponent b m e s = .ok (n, r)) : r.length ≤ s.length := by
  have hs := length_exponentSign s
  unfold exponent at h
  split at h
  · cases h
  next c t ht =>
    split at h
    · cases h
    next d _ =>
      have hd := length_of_exponentDigits (v := d) (s := t)
      simp only [ht, List.length_cons] at hs
      split at h
      · next u hu =>
        have := length_of_scaled h
        simp only [hu] at hd
        omega
      · next u hu =>
        simp only [hu] at hd
        split at h
        · cases h
        · cases h
          have := length_skipDigits u
          omega

theorem length_of_exponent? {b : Bool} {m : Nat} {e : Int} {s r : List Char} {n : Numeral}
    (h : exponent? b m e s = .ok (n, r)) : r.length ≤ s.length := by
  unfold exponent? at h
  split at h
  · exact Nat.le_succ_of_le (length_of_exponent h)
  · exact Nat.le_succ_of_le (length_of_exponent h)
  · exact length_of_scaled h

theorem length_of_fraction {b : Bool} {m : Nat} {e : Int} {s r : List Char} {n : Numeral}
    (h : fraction b m e s = .ok (n, r)) : r.length ≤ s.length := by
  have hs := length_of_significand (v := m) (n := 0) (s := s)
  unfold fraction at h
  split at h
  · next c t ht =>
    simp only [ht, List.length_cons] at hs
    split at h
    · have h₁ := length_of_exponent? h
      have h₂ := length_skipDigits t
      omega
    · split at h
      · cases h
      · have := length_of_exponent? h
        simp only [List.length_cons] at this
        omega
  · split at h
    · cases h
    · have := length_of_exponent? h
      simp only [List.length_nil] at this
      omega

theorem length_of_afterDigits {b : Bool} {m e : Nat} {s r : List Char} {n : Numeral}
    (h : afterDigits b m e s = .ok (n, r)) : r.length ≤ s.length := by
  unfold afterDigits at h
  split at h
  · exact Nat.le_succ_of_le (length_of_fraction h)
  · exact Nat.le_succ_of_le (length_of_exponent h)
  · exact Nat.le_succ_of_le (length_of_exponent h)
  · split at h
    · exact length_of_scaled h
    · split at h
      · split at h <;> (cases h; exact Nat.le_refl _)
      · cases h; exact Nat.le_refl _

theorem length_of_unsigned {b : Bool} {s r : List Char} {n : Numeral}
    (h : unsigned b s = .ok (n, r)) : r.length < s.length := by
  unfold unsigned at h
  split at h
  · cases h
  next c t =>
    split at h
    · cases h
    · split at h
      · split at h
        · cases h
        · exact Nat.lt_succ_of_le (length_of_afterDigits h)
      · exact Nat.lt_succ_of_le (length_of_afterDigits h)
    · next d _ _ =>
      have h₁ := length_of_afterDigits h
      have h₂ := length_skipDigits (significand d 0 t).2
      have h₃ := length_of_significand (v := d) (n := 0) (s := t)
      simp only [List.length_cons]
      omega

theorem length_of_numeral {s r : List Char} {n : Numeral} (h : numeral s = .ok (n, r)) :
    r.length < s.length := by
  unfold numeral at h
  split at h
  · exact Nat.lt_succ_of_lt (length_of_unsigned h)
  · exact length_of_unsigned h

end ServiceAdmin.Json
