/-!
# Sets of characters

A set of code points is written as its inversion list: the code points, in increasing order, at
which membership changes.  Tables of a Unicode property are values of this type.
-/

namespace ServiceAdmin.Text

/-- A set of code points; `bounds` lists where membership changes, starting from "outside". -/
structure CharSet where
  bounds : List Nat

namespace CharSet

/-- Membership of a code point in the set with the given bounds. -/
def inside : List Nat → Nat → Bool
  | [], _ => false
  | [lo], n => lo ≤ n
  | lo :: hi :: rest, n => (lo ≤ n && n < hi) || inside rest n

/-- Whether the set holds the character. -/
def holds (s : CharSet) (c : Char) : Bool := inside s.bounds c.toNat

end CharSet

end ServiceAdmin.Text
