import ServiceAdmin.Text.Blank

/-!
# Causes and hints

`describe` tells an error together with the errors that caused it, and `hint?` has advice for errors
that come from a certificate which is not trusted.
-/

namespace ServiceAdmin.Diagnostics

def skipSslValidationHint : String := "Hint: try --skip-ssl-validation at your own risk."

/-- The words for a certificate that is not trusted. -/
def certificateMarkers : List String :=
  ["unknown authority", "UnknownIssuer", "self signed certificate", "self-signed certificate",
    "unable to get local issuer certificate"]

/-- The advice that follows a message. -/
def hint? (message : String) : Option String :=
  if certificateMarkers.any (Text.contains message) then some skipSslValidationHint else none

/-- Appends the causes, outermost first, whose words are not already in the text. -/
def describe (message : String) : List String → String
  | [] => message
  | cause :: causes =>
    describe (if Text.contains message cause then message else message ++ ": " ++ cause) causes

end ServiceAdmin.Diagnostics
