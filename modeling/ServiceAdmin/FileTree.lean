import ServiceAdmin.Text.Blank
import ServiceAdmin.Text.Utf8

/-!
# File trees

The files below a working directory, and what reading one of them as text gives.  A path is followed
name by name; whatever has a further name behind it must be a directory.
-/

namespace ServiceAdmin

/-- Why a file cannot be read as text. -/
inductive ReadFault
  | notFound
  | notDirectory
  | isDirectory
  | nameTooLong
  | nulInName
  | notText
  /-- Another reason, in the words of the system. -/
  | other (message : String)
  deriving DecidableEq, Repr

def ReadFault.message : ReadFault → String
  | notFound => "No such file or directory (os error 2)"
  | notDirectory => "Not a directory (os error 20)"
  | isDirectory => "Is a directory (os error 21)"
  | nameTooLong => "File name too long (os error 36)"
  | nulInName => "file name contained an unexpected NUL byte"
  | notText => "stream did not contain valid UTF-8"
  | other message => message

/-- Files with their content, and directories; the directories around an entry are there too. -/
structure FileTree where
  entries : List (List String × Option (List UInt8))

namespace FileTree

/-- The names of a path; blank ones between two slashes are kept. -/
def names (path : String) : List String := (Text.pieces '/' path.toList).map String.ofList

/-- The tree of the given paths. -/
def ofList (files : List (String × Option (List UInt8))) : FileTree :=
  ⟨files.map fun (path, content) => ((names path).filter (· ≠ ""), content)⟩

/-- A place that a path leads to. -/
inductive Place
  /-- The directory of these names, last first. -/
  | directory (names : List String)
  | file (content : List UInt8)
  /-- A directory around the working directory. -/
  | outside

/-- What the name leads to from a directory of the tree. -/
def enter (tree : FileTree) (directory : List String) (name : String) : Except ReadFault Place :=
  let path := (name :: directory).reverse
  match tree.entries.find? (·.1 = path) with
  | some (_, some content) => .ok (.file content)
  | some (_, none) => .ok (.directory (name :: directory))
  | none =>
    if tree.entries.any fun e => path.isPrefixOf e.1 then .ok (.directory (name :: directory))
    else .error .notFound

/-- What the name leads to from a place. -/
def step (tree : FileTree) (place : Place) (name : String) : Except ReadFault Place :=
  match place with
  | .file _ => .error .notDirectory
  | .directory directory =>
    if name = "" ∨ name = "." then .ok place
    else if name = ".." then
      match directory with
      | [] => .ok .outside
      | _ :: around => .ok (.directory around)
    else if 255 < name.utf8ByteSize then .error .nameTooLong
    else tree.enter directory name
  | .outside =>
    if name = "" ∨ name = "." ∨ name = ".." then .ok .outside else .error .notFound

/-- Follows the names of a path. -/
def follow (tree : FileTree) (place : Place) : List String → Except ReadFault Place
  | [] => .ok place
  | name :: rest =>
    match tree.step place name with
    | .ok place => tree.follow place rest
    | .error fault => .error fault

/-- Where a path leads to. -/
def locate (tree : FileTree) (path : String) : Except ReadFault Place :=
  match names path with
  | [""] => .error .notFound
  | "" :: rest => tree.follow .outside rest
  | names => tree.follow (.directory []) names

/-- The text of a file. -/
def read (tree : FileTree) (path : String) : Except ReadFault String :=
  if path.toList.contains '\x00' then .error .nulInName
  else if 4096 ≤ path.utf8ByteSize then .error .nameTooLong
  else
    match tree.locate path with
    | .error fault => .error fault
    | .ok (.file content) => (Text.Utf8.decode? content).mapError fun _ => .notText
    | .ok _ => .error .isDirectory

end FileTree

end ServiceAdmin
