import ServiceAdmin.Arguments.Basic

/-!
# Usage and help

Usage is one line: how a level is called, and what it takes.  The help of a level tells what it is
for and lists its commands and arguments.
-/

namespace ServiceAdmin.Arguments.Level

/-- Whether there are named arguments of more use than help and version. -/
def hasOptions (level : Level) : Bool :=
  level.named.any fun a => a.form = .option || a.form = .flag

/-- The usage of a level where the arguments `given` are given.  Arguments that must be given are
shown as if they were. -/
def usage (level : Level) (given : List Argument) : String :=
  let options := if given.isEmpty && level.hasOptions then ["[OPTIONS]"] else []
  let named := ((given.filter (!·.isPositional)).map (·.givenText)).eraseDups
  let places := level.positionals.map fun a => if given.contains a then a.givenText else a.text
  let command := if level.commands.isEmpty then [] else ["<COMMAND>"]
  " ".intercalate (level.title :: options ++ named ++ places ++ command)

def usageLine (level : Level) (given : List Argument) : String := "Usage: " ++ level.usage given

/-- Rows of a label and a text; the texts begin in one column. -/
def rowsUnder (title : String) (rows : List (String × String)) : String :=
  let width := (rows.map (·.1.length)).foldl max 0
  let row (label text : String) : String :=
    "\n  " ++ label ++ String.ofList (List.replicate (width - label.length) ' ') ++ "  " ++ text
  if rows.isEmpty then ""
  else "\n\n" ++ title ++ ":" ++ String.join (rows.map fun (label, text) => row label text)

/-- A named argument in the help; names without a letter are aligned with the others. -/
def optionLabel (a : Argument) : String :=
  (match a.letter with
    | some c => "-" ++ c.toString ++ ", "
    | none => "    ") ++ a.text

/-- The help of a level. -/
def help (level : Level) : String :=
  level.about ++ "\n\n" ++ level.usageLine [] ++
    rowsUnder "Commands" (level.commands.map fun c => (c.name, c.about)) ++
    rowsUnder "Arguments" (level.positionals.map fun a => (a.text, a.about)) ++
    rowsUnder "Options" (level.named.map fun a => (optionLabel a, a.about))

end ServiceAdmin.Arguments.Level
