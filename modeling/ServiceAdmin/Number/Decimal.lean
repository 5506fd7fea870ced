/-!
# Decimal numerals

Whole numbers between limits are read from a sign and ASCII digits.  `IntFault` says why a text is
no such numeral; the first fault from the left is the one reported.
-/

namespace ServiceAdmin.Number

/-- Why a text is not a numeral of the wanted range. -/
inductive IntFault
  | empty
  | invalidDigit
  | tooLarge
  | tooSmall
  deriving DecidableEq, Repr

def IntFault.message : IntFault → String
  | .empty => "cannot parse integer from empty string"
  | .invalidDigit => "invalid digit found in string"
  | .tooLarge => "number too large to fit in target type"
  | .tooSmall => "number too small to fit in target type"

/-- The value of an ASCII digit. -/
def digit? (c : Char) : Option Nat :=
  if '0' ≤ c && c ≤ '9' then some (c.toNat - '0'.toNat) else none

/-- Reads digits behind the value `acc`; `beyond` is the fault of passing `limit`. -/
def readDigits (limit : Nat) (beyond : IntFault) (acc : Nat) : List Char → Except IntFault Nat
  | [] => .ok acc
  | c :: rest =>
    match digit? c with
    | none => .error .invalidDigit
    | some d =>
      if limit < 10 * acc + d then .error beyond else readDigits limit beyond (10 * acc + d) rest

/-- A numeral from 0 to `limit`, with an optional plus sign. -/
def readNat (limit : Nat) (s : List Char) : Except IntFault Nat :=
  match s with
  | [] => .error .empty
  | ['+'] => .error .invalidDigit
  | '+' :: digits => readDigits limit .tooLarge 0 digits
  | digits => readDigits limit .tooLarge 0 digits

/-- A numeral from `-lower` to `upper`, with an optional sign. -/
def readInt (lower upper : Nat) (s : List Char) : Except IntFault Int :=
  match s with
  | [] => .error .empty
  | ['+'] => .error .invalidDigit
  | ['-'] => .error .invalidDigit
  | '-' :: digits => (readDigits lower .tooSmall 0 digits).map fun n => -(n : Int)
  | s => (readNat upper s).map Int.ofNat

/-- The greatest value of 32 and of 64 bits. -/
def max32 : Nat := Nat.pow 2 32 - 1

def max64 : Nat := Nat.pow 2 64 - 1

/-- `n` in decimal with at least `width` digits. -/
def padded (width n : Nat) : String :=
  let digits := Nat.toDigits 10 n
  String.ofList (List.replicate (width - digits.length) '0' ++ digits)

end ServiceAdmin.Number
