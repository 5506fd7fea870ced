import ServiceAdmin.Text.Quoted
import ServiceAdmin.Text.Utf8

/-!
# Why a text is not the wanted JSON

A `Cause` is what is wrong, a `Failure` says in addition where.  The place is kept as what is left
of the text, so that readers need not count; `Failure.message` turns it into a line and a column,
both from 1, the column in octets.
-/

namespace ServiceAdmin.Json

/-- A value that was found where another kind of value was wanted. -/
inductive Found
  | null
  | boolean (b : Bool)
  | integer (n : Int)
  /-- A number that is not whole, in its written form. -/
  | floating (text : String)
  | string (s : String)
  | sequence
  | map
  deriving DecidableEq, Repr

def Found.message : Found → String
  | .null => "null"
  | .boolean b => s!"boolean `{b}`"
  | .integer n => s!"integer `{n}`"
  | .floating text => s!"floating point `{text}`"
  | .string s => "string " ++ Text.quoted s
  | .sequence => "sequence"
  | .map => "map"

/-- What is wrong with a text. -/
inductive Cause
  | endInValue
  | endInObject
  | endInList
  | endInString
  | expectedValue
  | expectedWord
  | expectedColon
  | expectedCommaOrBracket
  | expectedCommaOrBrace
  | keyNotString
  | trailingComma
  | trailingCharacters
  | invalidNumber
  | numberOutOfRange
  | controlCharacter
  | invalidEscape
  | loneSurrogate
  | endOfHexEscape
  | tooDeep
  | missingField (name : String)
  | duplicateField (name : String)
  | unknownField (name : String) (known : List String)
  | wrongLength (length : Nat) (wanted : String)
  | wrongType (found : Found) (wanted : String)
  | wrongValue (found : Found) (wanted : String)
  deriving DecidableEq, Repr

/-- A list of names as in "`a` or `b`". -/
def alternatives : List String → String
  | [] => "there are no fields"
  | [a] => s!"expected `{a}`"
  | [a, b] => s!"expected `{a}` or `{b}`"
  | names => "expected one of " ++ ", ".intercalate (names.map fun n => s!"`{n}`")

def Cause.message : Cause → String
  | .endInValue => "EOF while parsing a value"
  | .endInObject => "EOF while parsing an object"
  | .endInList => "EOF while parsing a list"
  | .endInString => "EOF while parsing a string"
  | .expectedValue => "expected value"
  | .expectedWord => "expected ident"
  | .expectedColon => "expected `:`"
  | .expectedCommaOrBracket => "expected `,` or `]`"
  | .expectedCommaOrBrace => "expected `,` or `\x7d`"
  | .keyNotString => "key must be a string"
  | .trailingComma => "trailing comma"
  | .trailingCharacters => "trailing characters"
  | .invalidNumber => "invalid number"
  | .numberOutOfRange => "number out of range"
  | .controlCharacter => "control character (\\u0000-\\u001F) found while parsing a string"
  | .invalidEscape => "invalid escape"
  | .loneSurrogate => "lone leading surrogate in hex escape"
  | .endOfHexEscape => "unexpected end of hex escape"
  | .tooDeep => "recursion limit exceeded"
  | .missingField name => s!"missing field `{name}`"
  | .duplicateField name => s!"duplicate field `{name}`"
  | .unknownField name known => s!"unknown field `{name}`, " ++ alternatives known
  | .wrongLength length wanted => s!"invalid length {length}, expected {wanted}"
  | .wrongType found wanted => s!"invalid type: {found.message}, expected {wanted}"
  | .wrongValue found wanted => s!"invalid value: {found.message}, expected {wanted}"

/-- A cause and its place, which has so many octets of the text behind it. -/
structure Failure where
  cause : Cause
  left : Nat
  deriving DecidableEq, Repr

/-- Line and column behind the first `consumed` octets of the text. -/
def position (line column consumed : Nat) : List Char → Nat × Nat
  | [] => (line, column)
  | c :: rest =>
    if consumed = 0 then (line, column)
    else if c = '\n' then position (line + 1) 0 (consumed - 1) rest
    else position line (column + min consumed c.utf8Size) (consumed - c.utf8Size) rest

/-- The cause with line and column in `text`. -/
def Failure.message (text : List Char) (failure : Failure) : String :=
  let (line, column) := position 1 0 (Text.Utf8.size text - failure.left) text
  s!"{failure.cause.message} at line {line} column {column}"

end ServiceAdmin.Json
