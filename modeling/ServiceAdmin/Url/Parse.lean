import ServiceAdmin.Url.Basic
import ServiceAdmin.Url.Domain

/-!
# Reading URLs

A text is read as an absolute URL part by part, from the left: scheme, credentials, host, port,
path, query, fragment.  Blanks and controls around the text are dropped, and so are tabs and line
ends within it.  In the well-known schemes a backslash is a slash.
-/

namespace ServiceAdmin.Url

/-- Why a text is no absolute URL. -/
inductive Fault
  | noScheme
  | emptyHost
  | invalidPort
  | invalidAddress4
  | invalidAddress6
  | invalidDomainName
  | invalidHostCharacter
  deriving DecidableEq, Repr

def Fault.message : Fault → String
  | noScheme => "relative URL without a base"
  | emptyHost => "empty host"
  | invalidPort => "invalid port number"
  | invalidAddress4 => "invalid IPv4 address"
  | invalidAddress6 => "invalid IPv6 address"
  | invalidDomainName => "invalid international domain name"
  | invalidHostCharacter => "invalid domain character"

def isEdge (c : Char) : Bool := c.toNat ≤ 0x20

def isDropped (c : Char) : Bool := c = '\t' || c = '\n' || c = '\r'

/-- The text that is read. -/
def cleaned (s : List Char) : List Char :=
  ((s.dropWhile isEdge).reverse.dropWhile isEdge).reverse.filter (!isDropped ·)

def isSchemeChar (c : Char) : Bool := c.isAlphanum || c = '+' || c = '-' || c = '.'

/-- The scheme in lower case, and the text behind its colon. -/
def scheme? (s : List Char) : Option (List Char × List Char) :=
  match s with
  | [] => none
  | c :: _ =>
    if c.isAlpha then
      match s.dropWhile isSchemeChar with
      | ':' :: rest => some ((s.takeWhile isSchemeChar).map Char.toLower, rest)
      | _ => none
    else none

/-- Whether a character separates the segments of a path. -/
def isSlash (wellKnown : Bool) (c : Char) : Bool := c = '/' || (wellKnown && c = '\\')

/-- Whether a character ends the host and what belongs to it. -/
def endsAuthority (wellKnown : Bool) (c : Char) : Bool :=
  isSlash wellKnown c || c = '?' || c = '#'

/-- The part before the last `@` of a text, and the part behind it. -/
def splitUserinfo (s : List Char) : Option (List Char) × List Char :=
  match s.reverse.dropWhile (· ≠ '@') with
  | [] => (none, s)
  | _ :: before => (some before.reverse, s.drop (before.length + 1))

/-- User name and password, encoded; an empty password is none. -/
def userinfo (s : List Char) : String × Option String :=
  let encode (t : List Char) := String.ofList (percentEncode inUserinfo t)
  match Text.cutAt? ':' s with
  | none => (encode s, none)
  | some (user, []) => (encode user, none)
  | some (user, password) => (encode user, some (encode password))

/-- The text of a host, up to a colon outside of brackets, and what follows it. -/
def splitHost (bracketed : Bool) : List Char → List Char × List Char
  | [] => ([], [])
  | c :: rest =>
    if c = ':' && !bracketed then ([], c :: rest)
    else
      let inside := if c = '[' then true else if c = ']' then false else bracketed
      let (host, rest) := splitHost inside rest
      (c :: host, rest)

/-- An address of version 6 from a host that begins with a bracket. -/
def bracketedHost (s : List Char) : Except Fault Host :=
  match s.reverse with
  | ']' :: inner =>
    match address6? inner.reverse with
    | some pieces => .ok (.address6 pieces)
    | none => .error .invalidAddress6
  | _ => .error .invalidAddress6

/-- The host of a well-known scheme. -/
def wellKnownHost (s : List Char) : Except Fault Host :=
  match s with
  | '[' :: rest => bracketedHost rest
  | s =>
    match Domain.ofOctets? (percentDecode s) with
    | none => .error .invalidDomainName
    | some [] => .error .emptyHost
    | some name =>
      if endsInNumber name then
        match address4? name with
        | some value => .ok (.address4 value)
        | none => .error .invalidAddress4
      else .ok (.domain (String.ofList name))

/-- The characters that no host has, of whatever scheme. -/
def isForbiddenInHost (c : Char) : Bool :=
  ['\x00', '\t', '\n', '\r', ' ', '#', '/', ':', '<', '>', '?', '@', '[', '\\', ']', '^',
    '|'].contains c

/-- The host of a scheme that is not well-known. -/
def otherHost (s : List Char) : Except Fault Host :=
  match s with
  | [] => .ok .empty
  | '[' :: rest => bracketedHost rest
  | s =>
    if s.any isForbiddenInHost then .error .invalidHostCharacter
    else .ok (.domain (String.ofList (percentEncode isControl s)))

/-- Reads the digits of a port up to the end of the authority. -/
def portFrom (port : Nat) : List Char → Except Fault (Nat × List Char)
  | [] => .ok (port, [])
  | c :: rest =>
    if c.isDigit then
      let port := port * 10 + (c.toNat - '0'.toNat)
      if 65535 < port then .error .invalidPort else portFrom port rest
    else if endsAuthority true c then .ok (port, c :: rest)
    else .error .invalidPort

/-- Reads a port behind its colon; the default port of the scheme is left out. -/
def readPort (scheme : String) (s : List Char) : Except Fault (Option Nat × List Char) := do
  let (n, rest) ← portFrom 0 s
  if rest.length = s.length || defaultPort? scheme = some n then .ok (none, rest)
  else .ok (some n, rest)

/-- Cuts a path at its slashes. -/
def splitPath (wellKnown : Bool) : List Char → List (List Char)
  | [] => [[]]
  | c :: rest =>
    if isSlash wellKnown c then [] :: splitPath wellKnown rest
    else match splitPath wellKnown rest with
      | [] => [[c]]
      | name :: names => (c :: name) :: names

/-- A segment in which an encoded dot is a dot. -/
def dots : List Char → List Char
  | '%' :: '2' :: 'e' :: rest => '.' :: dots rest
  | '%' :: '2' :: 'E' :: rest => '.' :: dots rest
  | c :: rest => c :: dots rest
  | [] => []

/-- Whether a segment is a letter and a colon, which stands for a drive. -/
def isDrive : List Char → Bool
  | [c, ':'] => c.isAlpha
  | [c, '|'] => c.isAlpha
  | _ => false

/-- The segments, last first, without the last one; the drive of a file stays. -/
def dropLast (isFile : Bool) : List (List Char) → List (List Char)
  | [] => []
  | name :: names => if isFile && isDrive name then name :: names else names

/-- Resolves `.` and `..` in the segments of a path, behind those in `done`, the last one first. -/
def resolveDots (isFile : Bool) (done : List (List Char)) : List (List Char) → List (List Char)
  | [] => done.reverse
  | name :: names =>
    let encoded := percentEncode inPath name
    if dots encoded = ['.', '.'] then
      let done := dropLast isFile done
      if names.isEmpty then ([] :: done).reverse else resolveDots isFile done names
    else if dots encoded = ['.'] then
      if names.isEmpty then ([] :: done).reverse else resolveDots isFile done names
    else resolveDots isFile (encoded :: done) names

/-- Splits off the query and the fragment. -/
def splitTail (wellKnown : Bool) (s : List Char) :
    List Char × Option String × Option String :=
  let path := s.takeWhile fun c => c ≠ '?' && c ≠ '#'
  let fragmentOf (t : List Char) := String.ofList (percentEncode inFragment t)
  match s.drop path.length with
  | '?' :: rest =>
    let query := rest.takeWhile (· ≠ '#')
    let encode := percentEncode (if wellKnown then inSpecialQuery else inQuery)
    let fragment := match rest.drop query.length with
      | _ :: f => some (fragmentOf f)
      | [] => none
    (path, some (String.ofList (encode query)), fragment)
  | '#' :: rest => (path, none, some (fragmentOf rest))
  | _ => (path, none, none)

def pathOf (names : List (List Char)) : Path := .segments (names.map String.ofList)

/-- The path behind a host. -/
def hierarchicalPath (wellKnown : Bool) (s : List Char) : Path :=
  match s with
  | [] => if wellKnown then .segments [""] else .segments []
  | c :: rest =>
    if isSlash wellKnown c then pathOf (resolveDots false [] (splitPath wellKnown rest))
    else pathOf (resolveDots false [] (splitPath wellKnown (c :: rest)))

/-- Reads a URL behind its scheme and the two slashes. -/
def parseAuthority (scheme : String) (s : List Char) : Except Fault Url := do
  let wellKnown := isWellKnown scheme
  let front := s.takeWhile (!endsAuthority wellKnown ·)
  let tail := s.drop front.length
  let (info, hostAndPort) := splitUserinfo front
  if info = some [] && hostAndPort.isEmpty && !tail.isEmpty then .error .emptyHost
  let (user, password) := userinfo (info.getD [])
  let (hostText, behind) := splitHost false hostAndPort
  if hostText.isEmpty && wellKnown then .error .emptyHost
  let host ← if wellKnown then wellKnownHost hostText else otherHost hostText
  if host = .empty && !behind.isEmpty then .error .emptyHost
  let (portNumber, rest) ← match behind with
    | _ :: digits => readPort scheme (digits ++ tail)
    | [] => .ok (none, tail)
  if host = .empty && (user ≠ "" || password.isSome) then .error .emptyHost
  let (path, query, fragment) := splitTail wellKnown rest
  .ok ⟨scheme, user, password, some host, portNumber, hierarchicalPath wellKnown path, query,
    fragment⟩

/-- The segments of a file's path: the first may be a drive, and empty ones before a name are
dropped.  Tells whether there is a drive. -/
def filePath (names : List (List Char)) : Path × Bool :=
  let (names, drive) := match names with
    | (c :: m :: more) :: rest =>
      if isDrive [c, m] && (m = ':' || more.isEmpty) then
        ([c, ':'] :: (if more.isEmpty then rest else more :: rest), true)
      else (names, false)
    | _ => (names, false)
  match (resolveDots true [] names).dropWhile List.isEmpty with
  | [] => (.segments [""], drive)
  | names => (pathOf names, drive)

/-- Reads the URL of a file behind its scheme. -/
def parseFile (s : List Char) : Except Fault Url := do
  let (front, query, fragment) := splitTail true s
  let file (host : Host) (names : List (List Char)) : Url :=
    let (path, drive) := filePath names
    ⟨"file", "", none, some (if drive then .empty else host), none, path, query, fragment⟩
  match splitPath true front with
  | [] :: [] :: hostText :: names =>
    if isDrive hostText then .ok (file .empty (hostText :: names))
    else if hostText.isEmpty then .ok (file .empty ([] :: names))
    else do
      let host ← wellKnownHost hostText
      let names := if names.isEmpty then [[]] else names
      if host = .domain "localhost" then .ok (file .empty ([] :: names))
      else .ok (file host names)
  | [] :: names => .ok (file .empty names)
  | names => .ok (file .empty names)

/-- Reads a URL of a scheme that is not well-known behind its scheme. -/
def parseOther (scheme : String) (s : List Char) : Except Fault Url :=
  match s with
  | '/' :: '/' :: rest => parseAuthority scheme rest
  | '/' :: rest =>
    let (path, query, fragment) := splitTail false rest
    .ok ⟨scheme, "", none, none, none, pathOf (resolveDots false [] (splitPath false path)), query,
      fragment⟩
  | s =>
    let (path, query, fragment) := splitTail false s
    .ok ⟨scheme, "", none, none, none, .plain (String.ofList (percentEncode isControl path)),
      query, fragment⟩

/-- Reads an absolute URL. -/
def parse (s : String) : Except Fault Url :=
  match scheme? (cleaned s.toList) with
  | none => .error .noScheme
  | some (name, rest) =>
    let scheme := String.ofList name
    if scheme = "file" then parseFile rest
    else if isWellKnown scheme then parseAuthority scheme (rest.dropWhile (isSlash true))
    else parseOther scheme rest

end ServiceAdmin.Url
