import ServiceAdmin.Error
import ServiceAdmin.Text.Blank

/-!
# Access tokens

The platform prints its token as `bearer`, one space and the token, with or without a line end.
-/

namespace ServiceAdmin.Service

/-- Not empty, and without blanks and control characters. -/
def isUsableToken (token : List Char) : Bool :=
  !token.isEmpty && !token.any fun c => Text.isBlank c || Text.isControl c

/-- The text without one line feed at its end. -/
def dropLineFeed (s : List Char) : List Char :=
  match s.reverse with
  | '\n' :: rest => rest.reverse
  | _ => s

/-- The token in what the platform printed. -/
def extractToken (output : String) : Except AuthError String :=
  match Text.pieces ' ' (dropLineFeed output.toList) with
  | [scheme, token] =>
    if scheme = ['b', 'e', 'a', 'r', 'e', 'r'] && isUsableToken token then
      .ok (String.ofList token)
    else .error (.invalidTokenOutput output)
  | _ => .error (.invalidTokenOutput output)

end ServiceAdmin.Service
