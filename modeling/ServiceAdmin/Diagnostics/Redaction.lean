import ServiceAdmin.Text.Blank
import ServiceAdmin.Text.Word

/-!
# Redaction

What looks like a credential is masked, in three passes over the text: the value of an
`authorization:` header, the token behind the word `bearer`, and the strings of JSON members whose
names say that they are secret.  Letter case does not matter.
-/

namespace ServiceAdmin.Diagnostics

open Text (isBlank)

def mask : List Char := ['[', 'R', 'E', 'D', 'A', 'C', 'T', 'E', 'D', ']']

/-- Whether a character is the small letter `w` or differs from it by case; the long s and the
kelvin sign are the letters that ASCII does not have. -/
def isLetter (w c : Char) : Bool :=
  c.toLower = w || (w = 's' && c = '\u017F') || (w = 'k' && c = '\u212A')

/-- What is left behind a word in small letters. -/
def afterWord? : List Char → List Char → Option (List Char)
  | [], s => some s
  | _ :: _, [] => none
  | w :: ws, c :: s => if isLetter w c then afterWord? ws s else none

/-- A kind of credential: told from the character before it and the text from it on are the number
of characters that are kept and the number of those behind them that are masked. -/
abbrev Pattern := Option Char → List Char → Option (Nat × Nat)

/-- Masks all places where the pattern holds, from the left; `skip` characters belong to the place
before. -/
def maskFrom (p : Pattern) (before : Option Char) : Nat → List Char → List Char
  | _, [] => []
  | skip + 1, c :: s => maskFrom p (some c) skip s
  | 0, c :: s =>
    match p before (c :: s) with
    | some (kept, masked) =>
      (c :: s).take kept ++ mask ++ maskFrom p (some c) (kept + masked - 1) s
    | none => c :: maskFrom p (some c) 0 s

def maskAll (p : Pattern) (s : List Char) : List Char := maskFrom p none 0 s

/-- The run of characters with the property `q` at the front, which must not be empty. -/
def run? (q : Char → Bool) (s : List Char) : Option Nat :=
  match (s.takeWhile q).length with
  | 0 => none
  | n => some n

def skipBlanks (s : List Char) : List Char := s.dropWhile isBlank

/-- `authorization:` and its value up to a blank or a comma. -/
def authorizationPattern : Pattern := fun _ s => do
  let rest ← afterWord? "authorization:".toList s
  let value := skipBlanks rest
  let n ← run? (fun c => !isBlank c && c ≠ ',') value
  return (s.length - value.length, n)

/-- The characters of a bearer token. -/
def isTokenChar (c : Char) : Bool :=
  c.isAlphanum || c = '-' || c = '.' || c = '_' || c = '~' || c = '+' || c = '/' ||
    isLetter 's' c || isLetter 'k' c

/-- The word `bearer`, blanks, and a token with its padding. -/
def bearerPattern : Pattern := fun before s => do
  if before.any Text.isWordChar then none
  let rest ← afterWord? "bearer".toList s
  let value := skipBlanks rest
  if value.length = rest.length then none
  let n ← run? isTokenChar value
  let padding := ((value.drop n).takeWhile (· = '=')).length
  return (s.length - value.length, n + padding)

/-- The names of secret members. -/
def secretNames : List (List Char) :=
  ["access_token".toList, "refresh_token".toList, "secret".toList, "password".toList]

/-- What is left behind the one of the names that the text begins with. -/
def afterSecretName? (s : List Char) : Option (List Char) :=
  secretNames.findSome? fun name => afterWord? (name ++ ['"']) s

/-- What is left behind a character and the blanks before it. -/
def afterMark? (mark : Char) (s : List Char) : Option (List Char) :=
  match skipBlanks s with
  | [] => none
  | c :: s => if c = mark then some s else none

/-- A secret member: its name, a colon, and a string up to the next double quote. -/
def memberPattern : Pattern := fun _ s => do
  match s with
  | '"' :: rest =>
    let rest ← afterSecretName? rest
    let rest ← afterMark? ':' rest
    let value ← afterMark? '"' rest
    return (s.length - value.length, (value.takeWhile (· ≠ '"')).length)
  | _ => none

/-- The text with all credentials masked. -/
def redactChars (s : List Char) : List Char :=
  maskAll memberPattern (maskAll bearerPattern (maskAll authorizationPattern s))

def redact (s : String) : String := String.ofList (redactChars s.toList)

end ServiceAdmin.Diagnostics
