/-!
# Writing JSON

Strings and objects of strings in compact form.
-/

namespace ServiceAdmin.Json

/-- One character of a string. -/
def writeChar (c : Char) : List Char :=
  if c = '"' then ['\\', '"']
  else if c = '\\' then ['\\', '\\']
  else if c = '\x08' then ['\\', 'b']
  else if c = '\x0C' then ['\\', 'f']
  else if c = '\n' then ['\\', 'n']
  else if c = '\r' then ['\\', 'r']
  else if c = '\t' then ['\\', 't']
  else if c.toNat < 0x20 then
    ['\\', 'u', '0', '0', Nat.digitChar (c.toNat / 16), Nat.digitChar (c.toNat % 16)]
  else [c]

def writeString (s : String) : List Char := '"' :: s.toList.flatMap writeChar ++ ['"']

/-- The members of an object, separated by commas. -/
def writeMembers : List (String × String) → List Char
  | [] => []
  | [(k, v)] => writeString k ++ ':' :: writeString v
  | (k, v) :: rest => writeString k ++ ':' :: writeString v ++ ',' :: writeMembers rest

/-- An object of string members, in the order given. -/
def writeObject (members : List (String × String)) : String :=
  String.ofList ('\x7b' :: writeMembers members ++ ['\x7d'])

end ServiceAdmin.Json
