/-!
# Base64

Three octets are written as four signs of six bits each.  At the end one or two octets may be left,
and equals signs fill up their group.
-/

namespace ServiceAdmin.Text.Base64

/-- The signs, by the bits that they stand for. -/
def alphabet : List Char :=
  "ABCDEFGHIJKLMNOPQRSTUVWXYZabcdefghijklmnopqrstuvwxyz0123456789+/".toList

def sign (bits : Nat) : Char := alphabet.getD bits '='

/-- The text that writes the octets. -/
def encode : List UInt8 → List Char
  | [] => []
  | [a] => [sign (a.toNat / 4), sign (a.toNat % 4 * 16), '=', '=']
  | [a, b] =>
    [sign (a.toNat / 4), sign (a.toNat % 4 * 16 + b.toNat / 16), sign (b.toNat % 16 * 4), '=']
  | a :: b :: c :: rest =>
    sign (a.toNat / 4) :: sign (a.toNat % 4 * 16 + b.toNat / 16) ::
      sign (b.toNat % 16 * 4 + c.toNat / 64) :: sign (c.toNat % 64) :: encode rest

end ServiceAdmin.Text.Base64
