import ServiceAdmin.Text.CharSet

/-!
# Blank characters and trimming

`isBlank` is the Unicode property White_Space; `trim` drops blanks at both ends of a text.
`lines` cuts a text at its line ends, where a carriage return before a line feed belongs to the
line end.
-/

namespace ServiceAdmin.Text

/-- The characters with the property White_Space. -/
def blanks : CharSet where
  bounds := [0x9, 0xE, 0x20, 0x21, 0x85, 0x86, 0xA0, 0xA1, 0x1680, 0x1681, 0x2000, 0x200B,
    0x2028, 0x202A, 0x202F, 0x2030, 0x205F, 0x2060, 0x3000, 0x3001]

def isBlank (c : Char) : Bool := blanks.holds c

/-- The control characters, C0, DEL and C1. -/
def isControl (c : Char) : Bool := c.toNat < 0x20 || (0x7F ≤ c.toNat && c.toNat < 0xA0)

def trimStartChars (s : List Char) : List Char := s.dropWhile isBlank

def trimEndChars (s : List Char) : List Char := (s.reverse.dropWhile isBlank).reverse

def trimChars (s : List Char) : List Char := trimEndChars (trimStartChars s)

/-- The text without the blanks at its two ends. -/
def trim (s : String) : String := String.ofList (trimChars s.toList)

/-- Whether the text has no character other than blanks. -/
def isAllBlank (s : String) : Bool := s.toList.all isBlank

/-- Cuts at every `sep`; there is one more piece than there are separators. -/
def pieces (sep : Char) : List Char → List (List Char)
  | [] => [[]]
  | c :: rest =>
    if c = sep then [] :: pieces sep rest
    else match pieces sep rest with
      | [] => [[c]]
      | p :: ps => (c :: p) :: ps

/-- The part before the first `sep` and the part after it. -/
def cutAt? (sep : Char) : List Char → Option (List Char × List Char)
  | [] => none
  | c :: rest =>
    if c = sep then some ([], rest) else (cutAt? sep rest).map fun (a, b) => (c :: a, b)

/-- A line without the carriage return that ends it. -/
def dropReturn (line : List Char) : List Char :=
  match line.reverse with
  | '\r' :: rest => rest.reverse
  | _ => line

/-- The lines of a text, given as the pieces between line feeds: the last piece is no line if it
is empty, and is not followed by a line feed. -/
def linesOfPieces : List (List Char) → List (List Char)
  | [] => []
  | [last] => if last.isEmpty then [] else [last]
  | p :: ps => dropReturn p :: linesOfPieces ps

def lines (s : List Char) : List (List Char) := linesOfPieces (pieces '\n' s)

/-- Whether `needle` occurs in `text` as consecutive characters. -/
def occursIn (needle : List Char) : List Char → Bool
  | [] => needle.isEmpty
  | c :: rest => needle.isPrefixOf (c :: rest) || occursIn needle rest

def contains (text needle : String) : Bool := occursIn needle.toList text.toList

end ServiceAdmin.Text
