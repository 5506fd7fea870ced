/-!
# UTF-8

Octets are read as UTF-8 in two ways.  `decode?` refuses octets that are no UTF-8 and says where the
first of them stands; `decodeLossy` puts a replacement character in place of each longest run of
octets that begins a character and does not end one.
-/

namespace ServiceAdmin.Text.Utf8

/-- The first octets that are no UTF-8: `length` octets behind `valid` good ones, or a character
that the end of the octets cuts off. -/
inductive Fault
  | invalid (valid length : Nat)
  | incomplete (valid : Nat)
  deriving DecidableEq, Repr

def Fault.message : Fault → String
  | .invalid valid length => s!"invalid utf-8 sequence of {length} bytes from index {valid}"
  | .incomplete valid => s!"incomplete utf-8 byte sequence from index {valid}"

/-- What an octet sequence begins with. -/
inductive Front
  /-- A character of `length` octets. -/
  | char (c : Char) (length : Nat)
  /-- `length` octets that begin no character. -/
  | bad (length : Nat)
  /-- A character that is not complete. -/
  | cut
  deriving DecidableEq, Repr

/-- How a leading octet goes on: its own bits, and the range of each octet behind it. -/
def expected? (b : Nat) : Option (Nat × List (Nat × Nat)) :=
  let tail := (0x80, 0xBF)
  if b < 0x80 then some (b, [])
  else if b < 0xC2 then none
  else if b < 0xE0 then some (b - 0xC0, [tail])
  else if b = 0xE0 then some (0, [(0xA0, 0xBF), tail])
  else if b = 0xED then some (0xD, [(0x80, 0x9F), tail])
  else if b < 0xF0 then some (b - 0xE0, [tail, tail])
  else if b = 0xF0 then some (0, [(0x90, 0xBF), tail, tail])
  else if b < 0xF4 then some (b - 0xF0, [tail, tail, tail])
  else if b = 0xF4 then some (4, [(0x80, 0x8F), tail, tail])
  else none

/-- Reads the octets behind a leading one, of which `length` octets with the bits `acc` are read. -/
def frontFrom (acc length : Nat) : List (Nat × Nat) → List UInt8 → Front
  | [], _ => .char (Char.ofNat acc) length
  | _ :: _, [] => .cut
  | (lo, hi) :: ranges, b :: rest =>
    if lo ≤ b.toNat ∧ b.toNat ≤ hi then
      frontFrom (acc * 64 + (b.toNat - 0x80)) (length + 1) ranges rest
    else .bad length

/-- What the octets `b :: rest` begin with. -/
def front (b : UInt8) (rest : List UInt8) : Front :=
  match expected? b.toNat with
  | none => .bad 1
  | some (acc, ranges) => frontFrom acc 1 ranges rest

/-- Reads octets of which `skip` still belong to the front already read, behind `valid` octets. -/
def decodeFrom (valid : Nat) : Nat → List UInt8 → Except Fault (List Char)
  | _, [] => .ok []
  | skip + 1, _ :: rest => decodeFrom (valid + 1) skip rest
  | 0, b :: rest =>
    match front b rest with
    | .char c length => (decodeFrom (valid + 1) (length - 1) rest).map (c :: ·)
    | .bad length => .error (.invalid valid length)
    | .cut => .error (.incomplete valid)

/-- The text that the octets write, unless they are no UTF-8. -/
def decode? (octets : List UInt8) : Except Fault String :=
  (decodeFrom 0 0 octets).map String.ofList

def lossyFrom : Nat → List UInt8 → List Char
  | _, [] => []
  | skip + 1, _ :: rest => lossyFrom skip rest
  | 0, b :: rest =>
    match front b rest with
    | .char c length => c :: lossyFrom (length - 1) rest
    | .bad length => '\uFFFD' :: lossyFrom (length - 1) rest
    | .cut => ['\uFFFD']

/-- The text that the octets write, with replacement characters for what is no UTF-8. -/
def decodeLossy (octets : List UInt8) : String := String.ofList (lossyFrom 0 octets)

/-- The octets that write a text. -/
def encode (s : String) : List UInt8 := s.toList.flatMap String.utf8EncodeChar

/-- The number of octets that write the characters. -/
def size (s : List Char) : Nat := s.foldr (fun c n => c.utf8Size + n) 0

end ServiceAdmin.Text.Utf8
