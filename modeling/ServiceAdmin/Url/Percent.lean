/-!
# Percent encoding

Each part of a URL has a set of ASCII characters that it may not hold as they are; these, and all
characters outside of ASCII, are written octet by octet as `%` and two hexadecimal digits.
-/

namespace ServiceAdmin.Url

def hexUpper (n : Nat) : Char := (Nat.digitChar n).toUpper

def percentOctet (b : UInt8) : List Char :=
  ['%', hexUpper (b.toNat / 16), hexUpper (b.toNat % 16)]

/-- Encodes the characters that are `special` and those outside of ASCII. -/
def percentEncode (special : Char → Bool) (s : List Char) : List Char :=
  s.flatMap fun c =>
    if 0x7F ≤ c.toNat || special c then (String.utf8EncodeChar c).flatMap percentOctet else [c]

def isControl (c : Char) : Bool := c.toNat < 0x20

def inFragment (c : Char) : Bool := isControl c || [' ', '"', '<', '>', '\x60'].contains c

def inQuery (c : Char) : Bool := isControl c || [' ', '"', '#', '<', '>'].contains c

/-- The queries of the well-known schemes encode the single quote in addition. -/
def inSpecialQuery (c : Char) : Bool := inQuery c || c = '\x27'

def inPath (c : Char) : Bool := inFragment c || ['#', '?', '\x7b', '\x7d'].contains c

def inUserinfo (c : Char) : Bool :=
  inPath c || ['/', ':', ';', '=', '@', '[', '\\', ']', '^', '|'].contains c

def hexValue? (c : Char) : Option Nat :=
  if '0' ≤ c && c ≤ '9' then some (c.toNat - '0'.toNat)
  else if 'a' ≤ c && c ≤ 'f' then some (c.toNat - 'a'.toNat + 10)
  else if 'A' ≤ c && c ≤ 'F' then some (c.toNat - 'A'.toNat + 10)
  else none

/-- The octets that percent-encoded text stands for. -/
def percentDecode : List Char → List UInt8
  | [] => []
  | '%' :: a :: b :: rest =>
    match hexValue? a, hexValue? b with
    | some x, some y => UInt8.ofNat (16 * x + y) :: percentDecode rest
    | _, _ => 0x25 :: percentDecode (a :: b :: rest)
  | c :: rest => String.utf8EncodeChar c ++ percentDecode rest

end ServiceAdmin.Url
