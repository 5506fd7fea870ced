/-!
# Errors

Every cause for which an administrative action fails, by its kind.  `Error.message` is the text that
is shown to the user.
-/

namespace ServiceAdmin

/-- The access token is missing or malformed. -/
inductive AuthError
  | invalidTokenOutput (output : String)
  | unavailable (cause : String)
  deriving DecidableEq, Repr

/-- A service instance or an application was not found. -/
inductive LookupError
  | serviceNotFound (name cause : String)
  | appNotFound (name : String)
  | instanceIndexNotFound (index : Nat)
  | appNameUnresolved (guid description : String) (code : Int) (errorCode : String)
  deriving DecidableEq, Repr

/-- The administrative URL cannot be derived. -/
inductive ResolveError
  | invalidDashboardPath (url : String)
  | invalidUrl (url reason : String)
  | legacyBrokerUnsupported
  | emptyServiceUri (url : String)
  | brokerProbe (url : String) (status : Nat)
  | apiEndpoint (endpoint : String)
  deriving DecidableEq, Repr

/-- A request was not sent, or its response is of no use. -/
inductive TransportError
  | invalidRequest (url reason : String)
  | failure (url message : String)
  | missingBody (url : String)
  | bodyUnreadable (url message : String)
  deriving DecidableEq, Repr

/-- A body was not decoded or not encoded. -/
inductive ProtocolError
  | decode (what reason body : String)
  | encode (what reason : String)
  deriving DecidableEq, Repr

/-- What the user gave is refused before anything is sent. -/
inductive ValidationError
  | invalidSecretPath (path : String)
  | invalidSecretJson (reason : String)
  | invalidInstanceIndex (value reason : String)
  | invalidArgument (message : String)
  deriving DecidableEq, Repr

/-- An operation was refused, or its progress could not be shown. -/
inductive OperationError
  | unexpectedStatus (action : String) (status : Nat)
  | encryption (body : String)
  | progress (reason : String)
  deriving DecidableEq, Repr

/-- The platform's own command line gave no answer. -/
inductive PlatformError
  | command (verb message : String)
  | output (verb message : String)
  deriving DecidableEq, Repr

/-- An error of any kind. -/
inductive Error
  | auth (e : AuthError)
  | lookup (e : LookupError)
  | resolve (e : ResolveError)
  | transport (e : TransportError)
  | protocol (e : ProtocolError)
  | validation (e : ValidationError)
  | operation (e : OperationError)
  | platform (e : PlatformError)
  deriving DecidableEq, Repr

def AuthError.message : AuthError → String
  | invalidTokenOutput output => s!"Access token output invalid: {output}"
  | unavailable cause => s!"Access token not available: {cause}"

def LookupError.message : LookupError → String
  | serviceNotFound name cause => s!"Service instance {name} not found: {cause}"
  | appNotFound name => s!"cf app name {name} not found"
  | instanceIndexNotFound index => s!"No instance found with index {index}"
  | appNameUnresolved guid description code errorCode =>
    s!"Failed to determine cf app name corresponding to cf app GUID '{guid}': " ++
      s!"{description}: code {code}, error_code {errorCode}"

def ResolveError.message : ResolveError → String
  | invalidDashboardPath url => s!"path of {url} has no segments"
  | invalidUrl url reason => s!"Error parsing URL '{url}': {reason}"
  | legacyBrokerUnsupported => "The /cli/instance endpoint could not be found."
  | emptyServiceUri url => s!"Empty service URI returned by {url}"
  | brokerProbe url status =>
    s!"Unexpected status code {status} when probing service broker at {url}"
  | apiEndpoint endpoint =>
    s!"Cannot derive the service broker host from API endpoint '{endpoint}'"

def TransportError.message : TransportError → String
  | invalidRequest url reason => s!"Request to '{url}' could not be created: {reason}"
  | failure url message => s!"Request to '{url}' failed: {message}"
  | missingBody url => s!"Response from '{url}' has no body"
  | bodyUnreadable url message => s!"Response body from '{url}' could not be read: {message}"

def ProtocolError.message : ProtocolError → String
  | decode what reason body =>
    s!"Invalid {what} response JSON: {reason}, response body: '{body}'"
  | encode what reason => s!"Could not encode {what} request: {reason}"

def ValidationError.message : ValidationError → String
  | invalidSecretPath _ =>
    "CredHub path should just include the required fields: " ++
      "\x7bappName\x7d/\x7bprofile\x7d/\x7blabel\x7d/\x7bpropertyName\x7d"
  | invalidSecretJson reason => s!"Secret must be valid JSON: {reason}"
  | invalidInstanceIndex value reason =>
    s!"Invalid cf instance index '{value}' in registry metadata: {reason}"
  | invalidArgument message => message

def OperationError.message : OperationError → String
  | unexpectedStatus action status => s!"{action}, status code: {status}"
  | encryption body => s!"Encryption failed: {body}"
  | progress reason => s!"Failed to report progress: {reason}"

def PlatformError.message : PlatformError → String
  | command verb message => s!"cf {verb} failed: {message}"
  | output verb message => s!"Unexpected output from cf {verb}: {message}"

def Error.message : Error → String
  | auth e => e.message
  | lookup e => e.message
  | resolve e => e.message
  | transport e => e.message
  | protocol e => e.message
  | validation e => e.message
  | operation e => e.message
  | platform e => e.message

end ServiceAdmin
