import ServiceAdmin.Json.Shape

/-!
# Decoding texts

A text is decoded as one value of a shape, with nothing but blanks around it.
-/

namespace ServiceAdmin.Json

/-- Reads a text as one value of the shape. -/
def decode {α : Type} (shape : Shape α) (s : List Char) : Except Failure α :=
  match shape.read s with
  | .error e => .error e
  | .ok (a, r) =>
    match skipBlanks r with
    | [] => .ok a
    | r => .error (failOn r .trailingCharacters)

/-- Reads a text as one value of the shape; the failure is told in words. -/
def decodeText {α : Type} (shape : Shape α) (text : String) : Except String α :=
  (decode shape text.toList).mapError (·.message text.toList)

end ServiceAdmin.Json
