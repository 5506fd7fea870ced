import ServiceAdmin.Error
import ServiceAdmin.Text.Blank

/-!
# Paths of secrets

A secret is named by an application, a profile, a label and a property, with slashes between.
-/

namespace ServiceAdmin.Service

def isPathChar (c : Char) : Bool :=
  c.isAlphanum || ['.', '_', '(', ')', '[', ']', ':', ',', '-'].contains c

/-- Whether a path has four names that are not empty. -/
def isSecretPath (path : String) : Bool :=
  let names := Text.pieces '/' path.toList
  names.length = 4 && names.all fun name => !name.isEmpty && name.all isPathChar

def checkSecretPath (path : String) : Except ValidationError Unit :=
  if isSecretPath path then .ok () else .error (.invalidSecretPath path)

end ServiceAdmin.Service
