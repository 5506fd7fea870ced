import ServiceAdmin.Text.Blank
import ServiceAdmin.Text.Normal
import ServiceAdmin.Text.Punycode
import ServiceAdmin.Text.Utf8
import ServiceAdmin.Url.Domain.Allowed
import ServiceAdmin.Url.Domain.Joining
import ServiceAdmin.Url.Domain.Mapping

/-!
# Domain names

A domain name is brought to its ASCII form: characters are mapped and normalized, and each label
with characters outside of ASCII is written in Punycode behind `xn--`.  A name in ASCII without such
labels only becomes lower case.
-/

namespace ServiceAdmin.Url.Domain

/-- The ASCII characters that no host has. -/
def isForbidden (c : Char) : Bool :=
  c.toNat ≤ 0x20 || c.toNat = 0x7F ||
    ['%', '#', '/', ':', '<', '>', '?', '@', '[', '\\', ']', '^', '|'].contains c

def isAscii (s : List Char) : Bool := s.all fun c => c.toNat < 0x80

/-- The beginning of a label that is written in Punycode. -/
def encodedMark : List Char := ['x', 'n', '-', '-']

/-- The mapped text, unless it has a character that is not allowed. -/
def mapped? : List Char → Option (List Char)
  | [] => some []
  | c :: rest => do
    let rest ← mapped? rest
    if ignored.holds c then some rest
    else match image? c with
      | some image => some (image ++ rest)
      | none => if disallowed.holds c then none else some (c :: rest)

/-- Whether a label has nothing that would have been mapped or refused. -/
def isPlain (label : List Char) : Bool :=
  mapped? label = some label && Text.normal label = label

/-- Whether a label in Unicode may be written in Punycode. -/
def isValid (label : List Char) : Bool :=
  !(label.head?.any marks.holds) && joinersFit [] label && !label.any isForbidden

/-- The text of a label that is mapped and normalized, and its ASCII form.  A label that would have
been mapped or normalized once more is refused, as is one in Punycode that stands for such. -/
def readLabel? (label : List Char) : Option (List Char × List Char) :=
  if isAscii label && encodedMark.isPrefixOf label then do
    let text ← Text.Punycode.decode? (label.drop 4)
    if isAscii text || !isPlain text || !isValid text then none
    else some (text, label)
  else if !isPlain label then none
  else if isAscii label then
    if label.any isForbidden then none else some (label, label)
  else if isValid label && !encodedMark.isPrefixOf label then
    some (label, encodedMark ++ Text.Punycode.encode label)
  else none

/-- A domain name in ASCII from a text. -/
def ofText? (s : List Char) : Option (List Char) :=
  let lower := s.map Char.toLower
  if isAscii s && !(Text.pieces '.' lower).any encodedMark.isPrefixOf then
    if lower.any isForbidden then none else some lower
  else do
    let labels ← (Text.pieces '.' (Text.normal (← mapped? s))).mapM readLabel?
    if directionsFit (labels.map (·.1)) then some (['.'].intercalate (labels.map (·.2))) else none

/-- A domain name in ASCII from the octets of a text. -/
def ofOctets? (octets : List UInt8) : Option (List Char) :=
  match Text.Utf8.decode? octets with
  | .ok s => ofText? s.toList
  | .error _ => none

end ServiceAdmin.Url.Domain
