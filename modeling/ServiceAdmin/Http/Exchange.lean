import ServiceAdmin.Diagnostics.Hint
import ServiceAdmin.Dialogue
import ServiceAdmin.Http.Request
import ServiceAdmin.Text.Base64
import ServiceAdmin.Text.Utf8
import ServiceAdmin.Url.Parse

/-!
# Exchanges

A request is turned into a message, the message goes over the network, and what becomes of it is
told as a response or as an error.  What cannot become a message is never sent, and neither is a
message to a URL that is no URI.  User name and password leave the URL of a request, and go into a
header field of their own.
-/

namespace ServiceAdmin.Http

/-- A user name, which may be empty, and a password. -/
structure Credentials where
  user : String
  password : Option String
  deriving DecidableEq, Repr

/-- The text of the credentials in a header field. -/
def Credentials.basic (c : Credentials) : String :=
  let octets := Text.Utf8.encode (c.user ++ ":" ++ c.password.getD "")
  "Basic " ++ String.ofList (Text.Base64.encode octets)

/-- A request as it is sent. -/
structure Message where
  method : Method
  /-- Without the user name and the password of the request, if they can be read. -/
  url : Url
  /-- The user name and the password that the request has in its URL. -/
  credentials : Option Credentials
  authorization : String
  payload : Option Payload
  deriving DecidableEq, Repr

def userAgent : String := "scs-cli/0.1.0; linux"

/-- The header fields of a message, by name.  One name may have more than one field. -/
def Message.headers (m : Message) : List (String × String) :=
  (m.credentials.map fun c => ("authorization", c.basic)).toList ++
    [("accept", applicationJson), ("authorization", m.authorization), ("user-agent", userAgent)]

/-- What became of a message. -/
inductive Delivery
  | replied (status : Nat) (body : List UInt8)
  /-- The connection ended within the body of the reply. -/
  | cutShort (status : Nat)
  /-- The connection ended without a reply. -/
  | closed
  /-- There was no connection, for this reason. -/
  | unreachable (reason : String)
  deriving DecidableEq, Repr

/-- Messages that go over the network. -/
def network : Interface := ⟨Message, fun _ => Delivery⟩

/-! ## Messages -/

/-- Whether an octet may stand in the value of a header field. -/
def isFieldOctet (b : UInt8) : Bool := (0x20 ≤ b && b ≠ 0x7F) || b = 0x09

/-- Whether a text can be the value of a header field. -/
def isFieldValue (s : String) : Bool := (Text.Utf8.encode s).all isFieldOctet

def badFieldValue : String := "failed to parse header value"

/-- The text that percent-encoded text stands for, if it stands for one. -/
def percentText? (s : String) : Option String :=
  (Text.Utf8.decode? (Url.percentDecode s.toList)).toOption

/-- The user name and the password of a URL, of which one may be left out.  There are none if the
user name cannot be read; a password that cannot be read counts as left out. -/
def credentials? (url : Url) : Option Credentials := do
  let user ← percentText? url.username
  let password := url.password.bind percentText?
  if user = "" ∧ password = none then none else some ⟨user, password⟩

/-- The URL of the message to a URL; credentials that can be read are no part of it. -/
def target (url : Url) : Url := if (credentials? url).isSome then url.withoutCredentials else url

/-- The message with the token to a URL.  A URL that is none and a token that no header field can
hold are refused. -/
def message (method : Method) (url token : String) : Except TransportError Message :=
  match Url.parse url with
  | .error fault => .error (.invalidRequest url fault.message)
  | .ok u =>
    if isFieldValue token then .ok ⟨method, target u, credentials? u, token, none⟩
    else .error (.invalidRequest url badFieldValue)

/-- An error with the URL that it belongs to. -/
def about (what : String) (url : Url) : String := what ++ " for url (" ++ url.text ++ ")"

def badScheme (url : Url) : String :=
  Diagnostics.describe (about "builder error" url) ["URL scheme is not allowed"]

/-- What is wrong with a message and its payload, so that it cannot be sent. -/
def unsendable? (m : Message) (payload : Option Payload) : Option String :=
  if m.url.hostText? = none then some (badScheme m.url)
  else if payload.any (!isFieldValue ·.contentType) then
    some (Diagnostics.describe "builder error" [badFieldValue])
  else if m.url.scheme ≠ "http" && m.url.scheme ≠ "https" then some (badScheme m.url)
  else none

/-- The size in octets up to which a URL is also a URI. -/
def maxUriSize : Nat := 65534

/-- Marks that the host of a URL may have, but not the host of a URI. -/
def badHostMarks : List Char := ['"', '\x60', '\x7b', '\x7d']

/-- Whether a URL with a host is also a URI, which alone a message can be sent to. -/
def isUri (url : Url) : Bool :=
  url.text.utf8ByteSize ≤ maxUriSize &&
    (url.hostText?.getD "").toList.all fun c => !badHostMarks.contains c

def badUri (url : Url) : String :=
  Diagnostics.describe (about "builder error" url) ["Parsed Url is not a valid Uri"]

/-- The message of a request. -/
def Request.message (r : Request) : Except TransportError Message := do
  let m ← Http.message r.method r.url r.token
  match unsendable? m r.payload with
  | some reason => .error (.failure r.url reason)
  | none => .ok { m with payload := r.payload }

/-! ## Responses -/

def Delivery.notSent (m : Message) (causes : List String) : String :=
  Diagnostics.describe (about "error sending request" m.url) causes

def Delivery.notRead (m : Message) : String :=
  Diagnostics.describe (about "error decoding response body" m.url)
    ["error reading a body from connection", "end of file before message length reached"]

/-- What a delivery means for the request of the message. -/
def Delivery.response (r : Request) (m : Message) : Delivery → Except TransportError Response
  | replied status body =>
    .ok ⟨status, if r.method.readsBody then Text.Utf8.decodeLossy body else ""⟩
  | cutShort status =>
    if r.method.readsBody then .error (.bodyUnreadable r.url (notRead m)) else .ok ⟨status, ""⟩
  | closed =>
    .error (.failure r.url (notSent m
      ["client error (SendRequest)", "connection closed before message completed"]))
  | unreachable reason =>
    .error (.failure r.url (notSent m ["client error (Connect)", "tcp connect error", reason]))

/-- Sends a request and gives its response. -/
def Request.exchange (r : Request) : Dialogue network (Except TransportError Response) := do
  match r.message with
  | .error e => return .error e
  | .ok m =>
    if isUri m.url then
      let delivery ← Dialogue.query (I := network) m
      return delivery.response r m
    else return .error (.failure r.url (badUri m.url))

end ServiceAdmin.Http
