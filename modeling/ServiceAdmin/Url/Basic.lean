import ServiceAdmin.Url.Address

/-!
# URLs

An absolute URL by its parts, and how it is written.  The parts are kept in their written form, with
what must be percent-encoded encoded.
-/

namespace ServiceAdmin

namespace Url

/-- Where a URL leads. -/
inductive Host
  /-- The host of a URL that names none, as in `file:///`. -/
  | empty
  /-- A domain name, or the host of a scheme that is not well-known. -/
  | domain (name : String)
  | address4 (value : Nat)
  | address6 (pieces : List Nat)
  deriving DecidableEq, Repr

def Host.text : Host → String
  | empty => ""
  | domain name => name
  | address4 value => address4Text value
  | address6 pieces => "[" ++ address6Text pieces ++ "]"

/-- A path is a list of segments, or a text without structure. -/
inductive Path
  | segments (names : List String)
  | plain (text : String)
  deriving DecidableEq, Repr

def Path.text : Path → String
  | segments names => String.join (names.map ("/" ++ ·))
  | plain text => text

end Url

/-- An absolute URL. -/
structure Url where
  scheme : String
  username : String
  password : Option String
  host : Option Url.Host
  /-- The port, unless it is the default one of the scheme. -/
  port : Option Nat
  path : Url.Path
  query : Option String
  fragment : Option String
  deriving DecidableEq, Repr

namespace Url

/-- Whether the scheme is one of those whose URLs have a host and a path of segments. -/
def isWellKnown (scheme : String) : Bool :=
  ["http", "https", "ws", "wss", "ftp", "file"].contains scheme

def defaultPort? (scheme : String) : Option Nat :=
  match scheme with
  | "http" => some 80
  | "ws" => some 80
  | "https" => some 443
  | "wss" => some 443
  | "ftp" => some 21
  | _ => none

/-- User name and password as they stand before the host. -/
def credentials (url : Url) : String :=
  match url.username, url.password with
  | "", none => ""
  | user, none => user ++ "@"
  | user, some password => user ++ ":" ++ password ++ "@"

def portText (port : Option Nat) : String :=
  match port with
  | some n => ":" ++ toString n
  | none => ""

/-- What stands between the scheme and the path.  A path that begins with two slashes must not be
taken for a host, so a segment `.` is put before it. -/
def authority (url : Url) : String :=
  match url.host, url.path with
  | some host, _ => "//" ++ url.credentials ++ host.text ++ portText url.port
  | none, .segments ("" :: _ :: _) => "/."
  | none, _ => ""

/-- The URL without its fragment. -/
def textWithoutFragment (url : Url) : String :=
  url.scheme ++ ":" ++ url.authority ++ url.path.text ++
    match url.query with
    | some q => "?" ++ q
    | none => ""

/-- The written form of a URL. -/
def text (url : Url) : String :=
  url.textWithoutFragment ++
    match url.fragment with
    | some f => "#" ++ f
    | none => ""

/-- The same URL without user name and password. -/
def withoutCredentials (url : Url) : Url := { url with username := "", password := none }

/-- The segments of a path that has some. -/
def segments (url : Url) : List String :=
  match url.path with
  | .segments names => names
  | .plain _ => []

/-- The host's text, for a URL that names a host. -/
def hostText? (url : Url) : Option String :=
  match url.host with
  | some .empty => none
  | some host => some host.text
  | none => none

end Url

end ServiceAdmin
