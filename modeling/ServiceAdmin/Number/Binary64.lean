import ServiceAdmin.Number.Decimal

/-!
# Binary64 numbers

A finite magnitude is `m * 2 ^ e` with `m < 2 ^ 53` and `e ≥ -1074`, and `m ≥ 2 ^ 52` unless
`e = -1074`.  `ofRatio` rounds a quotient of natural numbers to the nearest magnitude, a half to the
even one; products and quotients of magnitudes are rounded from their exact values by it.
-/

namespace ServiceAdmin.Number

/-- The quotient rounded to the nearest whole number, a half to the even neighbour. -/
def roundDiv (num den : Nat) : Nat :=
  let q := num / den
  let r := num % den
  if 2 * r < den then q
  else if 2 * r = den then q + q % 2
  else q + 1

/-- The size of a binary64 number that is not a NaN. -/
inductive Magnitude
  | finite (m : Nat) (e : Int)
  | infinite
  deriving DecidableEq, Repr

namespace Magnitude

def zero : Magnitude := .finite 0 (-1074)

/-- Numerator and denominator of `num / den / 2 ^ e`. -/
def scaled (num den : Nat) (e : Int) : Nat × Nat :=
  if 0 ≤ e then (num, den * Nat.pow 2 e.toNat)
  else (num * Nat.pow 2 (-e).toNat, den)

/-- The magnitude nearest to `num / den`. -/
def ofRatio (num den : Nat) : Magnitude :=
  if num = 0 then zero
  else
    let guess : Int := (num.log2 : Int) - den.log2 - 52
    let (n₀, d₀) := scaled num den guess
    let e := max (if n₀ < d₀ * Nat.pow 2 52 then guess - 1 else guess) (-1074)
    let (n, d) := scaled num den e
    let m := roundDiv n d
    let (m, e) := if m = Nat.pow 2 53 then (Nat.pow 2 52, e + 1) else (m, e)
    if 971 < e then .infinite else .finite m e

/-- The exact value as a quotient; an infinite magnitude has none. -/
def ratio? : Magnitude → Option (Nat × Nat)
  | .finite m e => some (if 0 ≤ e then (m * Nat.pow 2 e.toNat, 1) else (m, Nat.pow 2 (-e).toNat))
  | .infinite => none

def ofNat (n : Nat) : Magnitude := ofRatio n 1

def mul (a b : Magnitude) : Magnitude :=
  match a.ratio?, b.ratio? with
  | some (n, d), some (n', d') => ofRatio (n * n') (d * d')
  | _, _ => .infinite

/-- The rounded quotient; `b` is not zero. -/
def div (a b : Magnitude) : Magnitude :=
  match a.ratio?, b.ratio? with
  | some (n, d), some (n', d') => ofRatio (n * d') (d * n')
  | none, _ => .infinite
  | _, none => zero

def add (a b : Magnitude) : Magnitude :=
  match a.ratio?, b.ratio? with
  | some (n, d), some (n', d') => ofRatio (n * d' + n' * d) (d * d')
  | _, _ => .infinite

/-- The power of ten rounded to a magnitude. -/
def powTen (k : Nat) : Magnitude := ofNat (Nat.pow 10 k)

def isZero : Magnitude → Bool
  | .finite 0 _ => true
  | _ => false

/-- Exponent and fraction fields of the IEEE interchange format. -/
def fields : Magnitude → Nat
  | .finite m e =>
    if m < Nat.pow 2 52 then m else (e + 1075).toNat * Nat.pow 2 52 + (m - Nat.pow 2 52)
  | .infinite => 2047 * Nat.pow 2 52

/-- `a < b`. -/
def lt (a b : Magnitude) : Bool := a.fields < b.fields

end Magnitude

/-- A binary64 number that is not a NaN. -/
structure Binary64 where
  negative : Bool
  magnitude : Magnitude
  deriving DecidableEq, Repr

namespace Binary64

/-- The exact value rounded to `places` decimal places, a half to the even digit. -/
def fixed (places : Nat) (x : Binary64) : String :=
  let sign := if x.negative then "-" else ""
  match x.magnitude.ratio? with
  | none => sign ++ "inf"
  | some (n, d) =>
    let scale := Nat.pow 10 places
    let units := roundDiv (n * scale) d
    sign ++ toString (units / scale) ++ "." ++ padded places (units % scale)

/-- The least `p` with `num / den < 10 ^ (p + 1)`, for a positive quotient of binary64 size. -/
def leadingExponent (num den : Nat) : Int :=
  if den ≤ num then ((Nat.toDigits 10 (num / den)).length : Int) - 1
  else
    match (List.range 400).find? fun j => den ≤ num * Nat.pow 10 j with
    | some j => -(j : Int)
    | none => -400

/-- Whether `c * 10 ^ k` is read back as the magnitude `m * 2 ^ e`. -/
def readsBack (m : Nat) (e : Int) (c : Nat) (k : Int) : Bool :=
  let value := if 0 ≤ k then Magnitude.ofRatio (c * Nat.pow 10 k.toNat) 1
    else Magnitude.ofRatio c (Nat.pow 10 (-k).toNat)
  value == .finite m e

/-- The fewest decimal digits that read back, as `(digits, k)` for the value `digits * 10 ^ k`; of
two texts of that length the nearer one. -/
def shortest (m : Nat) (e : Int) : Nat × Int :=
  match (Magnitude.finite m e).ratio? with
  | none => (0, 0)
  | some (n, d) =>
    if m = 0 then (0, 0)
    else
      let p := leadingExponent n d
      let candidate (len : Nat) : Option (Nat × Int) :=
        let k : Int := p - len
        let (a, b) :=
          if 0 ≤ k then (n, d * Nat.pow 10 k.toNat) else (n * Nat.pow 10 (-k).toNat, d)
        let low := a / b
        let hitLow := readsBack m e low k
        let hitHigh := readsBack m e (low + 1) k
        let nearHigh := b < 2 * (a % b) || (2 * (a % b) = b && low % 2 = 1)
        if hitLow && hitHigh then some (if nearHigh then low + 1 else low, k)
        else if hitLow then some (low, k)
        else if hitHigh then some (low + 1, k)
        else none
      ((List.range 17).findSome? candidate).getD (0, 0)

end Binary64

end ServiceAdmin.Number
