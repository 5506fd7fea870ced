import ServiceAdmin.Number.Decimal

/-!
# Arguments and commands

What a program accepts on its command line.  A program has commands, and each level, the program
itself or one of its commands, has arguments: some stand by their place, others are named.
-/

namespace ServiceAdmin.Arguments

/-- What the value of an argument may be. -/
inductive Value
  | text
  /-- A whole number from 0 up to a limit. -/
  | upTo (limit : Nat)
  deriving DecidableEq, Repr

/-- Why a text is not such a value. -/
def Value.complaint? : Value → String → Option String
  | text, _ => none
  | upTo limit, s =>
    match Number.readInt (Nat.pow 2 63) (Nat.pow 2 63 - 1) s.toList with
    | .error fault => some fault.message
    | .ok n =>
      if 0 ≤ n ∧ n ≤ limit then none else some s!"{n} is not in 0..={limit}"

/-- How an argument is given. -/
inductive Form
  /-- By its place among the words without a name. -/
  | positional
  /-- By its place, as any number of words. -/
  | repeated
  /-- By its name and a value. -/
  | option
  /-- By its name alone. -/
  | flag
  /-- By its name, and nothing is done but to print the help. -/
  | help
  /-- By its name, and nothing is done but to print the version. -/
  | version
  deriving DecidableEq, Repr

structure Argument where
  name : String
  /-- The letter that may stand for the name. -/
  letter : Option Char
  form : Form
  value : Value
  required : Bool
  /-- The names of the arguments that cannot be given beside it. -/
  excludes : List String
  about : String
  deriving DecidableEq, Repr

namespace Argument

/-- Whether the argument is given by its place. -/
def isPositional (a : Argument) : Bool := a.form = .positional || a.form = .repeated

/-- Whether the argument has a value. -/
def hasValue (a : Argument) : Bool := a.isPositional || a.form = .option

/-- The argument as usage shows it where it is given. -/
def givenText (a : Argument) : String :=
  match a.form with
  | .positional => "<" ++ a.name ++ ">"
  | .repeated => "<" ++ a.name ++ ">..."
  | .option => "--" ++ a.name ++ " <" ++ a.name ++ ">"
  | .flag | .help | .version => "--" ++ a.name

/-- The argument as messages show it. -/
def text (a : Argument) : String :=
  match a.form with
  | .positional => if a.required then a.givenText else "[" ++ a.name ++ "]"
  | .repeated => if a.required then a.givenText else "[" ++ a.name ++ "]..."
  | .option | .flag | .help | .version => a.givenText

end Argument

/-- A command of a grammar. -/
structure Command where
  name : String
  about : String
  arguments : List Argument
  deriving DecidableEq, Repr

/-- A level of the command line. -/
structure Level where
  /-- How usage calls it. -/
  title : String
  about : String
  arguments : List Argument
  /-- The commands below it. -/
  commands : List Command
  deriving DecidableEq, Repr

namespace Level

/-- The arguments that are given by their place, in its order. -/
def positionals (level : Level) : List Argument := level.arguments.filter (·.isPositional)

/-- The arguments that are given by their name. -/
def named (level : Level) : List Argument := level.arguments.filter (!·.isPositional)

def command? (level : Level) (name : String) : Option Command :=
  level.commands.find? (·.name = name)

end Level

/-- What a program accepts on its command line. -/
structure Grammar where
  name : String
  version : String
  about : String
  arguments : List Argument
  commands : List Command
  deriving DecidableEq, Repr

namespace Grammar

/-- The command that prints the help of the others. -/
def helpCommand : Command where
  name := "help"
  about := "Print this message or the help of the given subcommand(s)"
  arguments := [⟨"COMMAND", none, .repeated, .text, false, [], "Print help for the subcommand(s)"⟩]

/-- The level of the program itself; `called` is the name that it was called by. -/
def root (grammar : Grammar) (called : Option String) : Level where
  title := called.getD grammar.name
  about := grammar.about
  arguments := grammar.arguments
  commands := grammar.commands ++ [helpCommand]

/-- The level of a command. -/
def level (command : Command) (called : Option String) : Level where
  title := match called with
    | some name => name ++ " " ++ command.name
    | none => command.name
  about := command.about
  arguments := command.arguments
  commands := []

end Grammar

end ServiceAdmin.Arguments
