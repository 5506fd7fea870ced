import Mathlib.Data.List.Forall2
import ServiceAdmin.Proofs.Json.Reading

/-!
# The texts of JSON

Which texts write a JSON value, told by the grammar and not by a reader: strings with escapes of
every kind, numbers, and lists and objects with blanks between their pieces.  `IsStringOf`,
`IsObjectOf` and `IsRecordOf` also tell what is written.
-/

namespace ServiceAdmin.Json

/-- Nothing but blanks. -/
def Blank (b : List Char) : Prop := ∀ c ∈ b, isBlank c = true

instance : DecidablePred Blank := fun _ => inferInstanceAs (Decidable (∀ _ ∈ _, _))

/-! ## Strings -/

/-- The letters of escapes, and the characters that they stand for. -/
def escapes : List (Char × Char) :=
  [('"', '"'), ('\\', '\\'), ('/', '/'), ('b', '\x08'), ('f', '\x0C'), ('n', '\n'), ('r', '\r'),
    ('t', '\t')]

/-- A hexadecimal digit, of either case, and its value. -/
def IsHexDigit (c : Char) (d : Nat) : Prop :=
  "0123456789abcdef".toList[d]? = some c ∨ "0123456789ABCDEF".toList[d]? = some c

instance (c : Char) (d : Nat) : Decidable (IsHexDigit c d) :=
  inferInstanceAs (Decidable (_ ∨ _))

/-- The escape of a unit of 16 bits. -/
inductive IsUnitEscape : Nat → List Char → Prop
  | intro {a b c d : Char} {i j k l : Nat} :
      IsHexDigit a i → IsHexDigit b j → IsHexDigit c k → IsHexDigit d l →
      IsUnitEscape (((i * 16 + j) * 16 + k) * 16 + l) ['\\', 'u', a, b, c, d]

/-- The ways to write a character of a string: as it is, with a letter behind a backslash, or with
the one or two units that it has in UTF-16. -/
inductive Spells : Char → List Char → Prop
  | literal {c : Char} : IsLiteral c → Spells c [c]
  | letter {e c : Char} : (e, c) ∈ escapes → Spells c ['\\', e]
  | unit {c : Char} {w : List Char} : IsUnitEscape c.toNat w → Spells c w
  | pair {c : Char} {high low : Nat} {u v : List Char} : IsUnitEscape high u → IsUnitEscape low v →
      0xD800 ≤ high → high < 0xDC00 → 0xDC00 ≤ low → low < 0xE000 →
      c.toNat = 0x10000 + (high - 0xD800) * 0x400 + (low - 0xDC00) → Spells c (u ++ v)

/-- The texts of a string. -/
def IsStringOf (s : String) (t : List Char) : Prop :=
  ∃ pieces : List (List Char), List.Forall₂ Spells s.toList pieces ∧
    t = '"' :: (pieces.flatten ++ ['"'])

/-- A piece of a string that nobody reads: surrogates need not be in pairs. -/
inductive IsPiece : List Char → Prop
  | literal {c : Char} : IsLiteral c → IsPiece [c]
  | letter {e c : Char} : (e, c) ∈ escapes → IsPiece ['\\', e]
  | unit {n : Nat} {w : List Char} : IsUnitEscape n w → IsPiece w

def IsString (t : List Char) : Prop :=
  ∃ pieces : List (List Char), (∀ p ∈ pieces, IsPiece p) ∧ t = '"' :: (pieces.flatten ++ ['"'])

/-! ## Numbers -/

def IsDigits (t : List Char) : Prop := t ≠ [] ∧ ∀ c ∈ t, isDigit c = true

/-- The whole digits of a number, without leading zeros. -/
inductive IsWhole : List Char → Prop
  | zero : IsWhole ['0']
  | digits {c : Char} {t : List Char} : c ≠ '0' → IsDigits (c :: t) → IsWhole (c :: t)

inductive IsFraction : List Char → Prop
  | none : IsFraction []
  | digits {t : List Char} : IsDigits t → IsFraction ('.' :: t)

inductive IsExponent : List Char → Prop
  | none : IsExponent []
  | digits {c : Char} {s t : List Char} : c = 'e' ∨ c = 'E' → s ∈ [[], ['+'], ['-']] →
      IsDigits t → IsExponent (c :: (s ++ t))

inductive IsNumber : List Char → Prop
  | intro {s whole fraction exponent : List Char} : s ∈ [[], ['-']] → IsWhole whole →
      IsFraction fraction → IsExponent exponent → IsNumber (s ++ (whole ++ (fraction ++ exponent)))

/-! ## Lists and objects -/

/-- The items with commas between them, and blanks around them. -/
inductive Separated : List (List Char) → List Char → Prop
  | last {b t b' : List Char} : Blank b → Blank b' → Separated [t] (b ++ (t ++ b'))
  | cons {b t b' r : List Char} {ts : List (List Char)} : Blank b → Blank b' → Separated ts r →
      Separated (t :: ts) (b ++ (t ++ (b' ++ ',' :: r)))

/-- The items between two brackets. -/
inductive Enclosed (opening closing : Char) : List (List Char) → List Char → Prop
  | empty {b : List Char} : Blank b → Enclosed opening closing [] (opening :: (b ++ [closing]))
  | items {ts : List (List Char)} {s : List Char} : Separated ts s →
      Enclosed opening closing ts (opening :: (s ++ [closing]))

/-- A member of an object: a key and a value, with a colon and blanks between them. -/
inductive Joined (key value : List Char) : List Char → Prop
  | intro {b b' : List Char} : Blank b → Blank b' →
      Joined key value (key ++ (b ++ ':' :: (b' ++ value)))

/-- The words that are values. -/
def words : List (List Char) := ["null".toList, "true".toList, "false".toList]

/-- The texts of the values that are no lists and no objects. -/
inductive IsScalar : List Char → Prop
  | word {t : List Char} : t ∈ words → IsScalar t
  | number {t : List Char} : IsNumber t → IsScalar t
  | string {t : List Char} : IsString t → IsScalar t

/-- The texts of JSON values; the members of an object are pairs of a key and a value. -/
inductive IsValue : List Char → Prop
  | scalar {t : List Char} : IsScalar t → IsValue t
  | list {items : List (List Char)} {t : List Char} : Enclosed '[' ']' items t →
      (∀ i ∈ items, IsValue i) → IsValue t
  | object {members : List (List Char × List Char)} {items : List (List Char)} {t : List Char} :
      List.Forall₂ (fun m => Joined m.1 m.2) members items → Enclosed '\x7b' '\x7d' items t →
      (∀ m ∈ members, IsString m.1) → (∀ m ∈ members, IsValue m.2) → IsValue t

/-- The texts of a member, which is given by its name and the text of its value. -/
def IsMember (member : String × List Char) (t : List Char) : Prop :=
  ∃ key, IsStringOf member.1 key ∧ Joined key member.2 t

/-- The texts of an object with these members. -/
def IsObjectOf (members : List (String × List Char)) (t : List Char) : Prop :=
  ∃ items, List.Forall₂ IsMember members items ∧ Enclosed '\x7b' '\x7d' items t

/-! ## Records -/

/-- A member that is known by its name. -/
structure Field where
  name : String
  /-- The texts of its value. -/
  written : List Char → Prop
  /-- Whether it may be left out. -/
  free : Prop

/-- The texts of the values of all members of a name. -/
def valuesOf (name : String) (members : List (String × List Char)) : List (List Char) :=
  (members.filter (·.1 = name)).map (·.2)

/-- The values of a name are one text of the field, or none if it may be left out. -/
inductive Field.Given (field : Field) : List (List Char) → Prop
  | once {t : List Char} : field.written t → field.Given [t]
  | leftOut : field.free → field.Given []

/-- The texts of an object with these fields, in any order; members of other names may have any
values. -/
def IsRecordOf (fields : List Field) (t : List Char) : Prop :=
  ∃ members, IsObjectOf members t ∧ (∀ f ∈ fields, f.Given (valuesOf f.name members)) ∧
    ∀ m ∈ members, m.1 ∉ fields.map (·.name) → IsValue m.2

/-- The texts of a list of such elements. -/
def IsListOf {α : Type} (written : α → List Char → Prop) (as : List α) (t : List Char) : Prop :=
  ∃ items, List.Forall₂ written as items ∧ Enclosed '[' ']' items t

end ServiceAdmin.Json
