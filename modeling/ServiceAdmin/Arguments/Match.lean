import ServiceAdmin.Arguments.Reading

/-!
# Reading command lines

A command line names the program, one of its commands, and arguments of both.
-/

namespace ServiceAdmin.Arguments

/-- What a command line says: a command, and the arguments that are given at both levels. -/
structure Match where
  command : String
  given : List Given
  deriving DecidableEq, Repr

namespace Match

/-- Whether an argument is given. -/
def has (m : Match) (name : String) : Bool := m.given.any (·.argument.name = name)

/-- The value of an argument. -/
def value? (m : Match) (name : String) : Option String :=
  m.given.findSome? fun g => if g.argument.name = name then g.value else none

end Match

/-- The name in a path: the last one that stands for itself. -/
def calledName? (path : String) : Option String :=
  match ((Text.pieces '/' path.toList).filter fun p => p ≠ [] && p ≠ ['.']).getLast? with
  | some ['.', '.'] => none
  | some name => some (String.ofList name)
  | none => none

namespace Grammar

/-- The help for the command that the words name. -/
def helpFor (grammar : Grammar) (called : Option String) : List String → Halt
  | [] => .help (grammar.root called)
  | name :: rest =>
    let root := grammar.root called
    match root.command? name, rest with
    | none, _ => .refused root (.unknownCommand name none) (some [])
    | some command, [] => .help (level command called)
    | some command, word :: _ =>
      .refused (level command called) (.unknownCommand word none) (some [])

/-- Reads a command line; its first word is what the program was called by. -/
def read (grammar : Grammar) (words : List String) : Except Halt Match := do
  let called := words.head?.bind calledName?
  let root := grammar.root called
  let (given, below) ← root.read (.start root) words.tail
  match below with
  | none =>
    if given.isEmpty then .error (.nothingGiven root)
    else .error (.refused root .noCommand (some []))
  | some (command, rest) =>
    if command = helpCommand then .error (grammar.helpFor called rest)
    else
      let level := level command called
      let (arguments, _) ← level.read (.start level) rest
      level.check arguments
      return ⟨command.name, given ++ arguments⟩

end Grammar

end ServiceAdmin.Arguments
