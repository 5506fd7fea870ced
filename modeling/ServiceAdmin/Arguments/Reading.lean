import ServiceAdmin.Arguments.Halt
import ServiceAdmin.Text.Blank
import ServiceAdmin.Text.Similarity

/-!
# Reading one level

The words of a level are read from the left.  A value is checked when the next argument begins, so a
fault of an argument is found before one in the word behind it.  Two dashes end the named arguments.
-/

namespace ServiceAdmin.Arguments

/-- An argument that is given, with its value. -/
structure Given where
  argument : Argument
  value : Option String
  deriving DecidableEq, Repr

/-- What has been read of a level. -/
structure Reading where
  given : List Given
  /-- The argument that was read last and is not yet checked. -/
  pending : Option Given
  /-- The arguments that are still to be given by their place. -/
  places : List Argument
  /-- Whether two dashes were read. -/
  dashes : Bool
  deriving DecidableEq, Repr

namespace Reading

def start (level : Level) : Reading := ⟨[], none, level.positionals, false⟩

/-- The arguments that are given. -/
def arguments (r : Reading) : List Argument := r.given.map (·.argument)

/-- Adds an argument.  What is given with a value that is not accepted is given all the same. -/
def add (r : Reading) (g : Given) : Reading × Option Fault :=
  let r := { r with pending := none }
  if g.argument.hasValue && g.value.isNone then (r, some (.noValue g.argument))
  else if r.arguments.contains g.argument then
    ({ r with given := r.given.filter (·.argument ≠ g.argument) }, some (.repeated g.argument))
  else
    let value := g.value.getD ""
    ({ r with given := r.given ++ [g] },
      (g.argument.value.complaint? value).map (.invalidValue g.argument value))

/-- Adds the argument that is pending. -/
def settle (r : Reading) : Reading × Option Fault :=
  match r.pending with
  | some g => r.add g
  | none => (r, none)

/-- The argument whose value is the next word. -/
def awaiting (r : Reading) : Option Argument :=
  match r.pending with
  | some ⟨a, none⟩ => some a
  | _ => none

end Reading

namespace Level

/-- The refusal for a fault of an argument. -/
def refuse (level : Level) (fault : Fault) : Halt :=
  .refused level fault (match fault with
    | .repeated _ => some []
    | _ => none)

/-- Goes on with a reading unless it has a fault. -/
def accept (level : Level) : Reading × Option Fault → Except Halt Reading
  | (r, none) => .ok r
  | (_, some fault) => .error (level.refuse fault)

/-- Adds what is pending and then an argument. -/
def add (level : Level) (r : Reading) (g : Given) : Except Halt Reading := do
  level.accept ((← level.accept r.settle).add g)

/-- Reads a flag. -/
def takeFlag (level : Level) (r : Reading) (flag : Argument) : Except Halt Reading := do
  let r ← level.accept r.settle
  match flag.form with
  | .help => .error (.help level)
  | .version => .error .version
  | _ => level.accept (r.add ⟨flag, none⟩)

/-- Reads an option, whose value is the next word if there is none with it. -/
def takeOption (level : Level) (r : Reading) (option : Argument) (value : Option String) :
    Except Halt Reading :=
  match value with
  | some value => level.add r ⟨option, some value⟩
  | none => do
    let r ← level.accept r.settle
    return { r with pending := some ⟨option, none⟩ }

/-! ## Unknown words -/

/-- Advice to give the word as a value, where values are accepted. -/
def valueAdvice (level : Level) (word : String) : Option Advice :=
  if level.positionals.isEmpty then none else some (.passAsValue word)

/-- The named argument whose name is most similar to a name. -/
def similarArgument? (arguments : List Argument) (name : String) : Option Argument :=
  let named := arguments.filter (!·.isPositional)
  match (Text.similarTo name (named.map (·.name))).getLast? with
  | some best => named.find? (·.name = best)
  | none => none

/-- A command among the words that follow, with a named argument of a similar name. -/
def argumentBelow? (level : Level) (name : String) : List String → Option Advice
  | [] => none
  | word :: rest =>
    match (level.command? word).bind fun c => similarArgument? c.arguments name with
    | some a => some (.argumentOf word a.name)
    | none => level.argumentBelow? name rest

/-- The refusal of a name that is not that of an argument.  A similar one is taken as given. -/
def unknownName (level : Level) (r : Reading) (name : String) (rest : List String) : Halt :=
  let given := r.settle.1.arguments
  let word := "--" ++ name
  match similarArgument? level.named name with
  | some a =>
    .refused level (.unknownArgument word (some (.similarArgument a.name)))
      (some (if given.contains a then given else given ++ [a]))
  | none =>
    match level.argumentBelow? name rest with
    | some advice => .refused level (.unknownArgument word (some advice)) (some given)
    | none => .refused level (.unknownArgument word (level.valueAdvice word)) (some given)

/-- The refusal of a word for which there is no place. -/
def noPlace (level : Level) (r : Reading) (word : String) : Halt :=
  let fault :=
    if r.dashes && (level.command? word).isSome then
      .unknownArgument word (some (.dropDashes word))
    else
      match Text.similarTo word (level.commands.map (·.name)) with
      | [] =>
        if level.commands.isEmpty then .unknownArgument word none else .unknownCommand word none
      | names => .unknownCommand word (some (.similarCommands names))
  .refused level fault (some [])

/-! ## Words -/

/-- Reads a word that begins with two dashes; `text` is what stands behind them. -/
def takeName (level : Level) (r : Reading) (text : String) (rest : List String) :
    Except Halt Reading :=
  let (name, value) := match Text.cutAt? '=' text.toList with
    | some (name, value) => (String.ofList name, some (String.ofList value))
    | none => (text, none)
  match level.named.find? (·.name = name) with
  | none => .error (level.unknownName r name rest)
  | some a =>
    if a.hasValue then level.takeOption r a value
    else match value with
      | none => level.takeFlag r a
      | some value =>
        .error (.refused level (.surplusValue a value)
          (some ((r.arguments.filter (!·.required)) ++ [a])))

/-- Reads the letters behind a dash. -/
def takeLetters (level : Level) (r : Reading) : List Char → Except Halt Reading
  | [] => .ok r
  | c :: rest =>
    match level.named.find? (·.letter = some c) with
    | none =>
      let word := "-" ++ c.toString
      .error (.refused level (.unknownArgument word (level.valueAdvice word)) (some []))
    | some a =>
      if a.hasValue then
        level.takeOption r a (match rest with
          | [] => none
          | '=' :: value => some (String.ofList value)
          | value => some (String.ofList value))
      else do
        let r ← level.takeFlag r a
        level.takeLetters r rest

/-- Reads a word that is given by its place. -/
def takePlace (level : Level) (r : Reading) (word : String) : Except Halt Reading :=
  match r.places with
  | [] => .error (level.noPlace r word)
  | a :: places => do
    let r ← level.accept r.settle
    return { r with pending := some ⟨a, some word⟩, places := places }

/-- Reads a word that is no command; `rest` follows it. -/
def takeWord (level : Level) (r : Reading) (word : String) (rest : List String) :
    Except Halt Reading :=
  if r.dashes then level.takePlace r word
  else
    match word.toList with
    | ['-', '-'] => .ok { r with dashes := true }
    | '-' :: '-' :: text => level.takeName r (String.ofList text) rest
    | '-' :: c :: letters => level.takeLetters r (c :: letters)
    | _ =>
      match r.awaiting with
      | some a => .ok { r with pending := some ⟨a, some word⟩ }
      | none => level.takePlace r word

/-- The command that a word calls. -/
def called? (level : Level) (r : Reading) (word : String) : Option Command :=
  if r.dashes || r.awaiting.isSome then none else level.command? word

/-- What the words of a level are: its arguments, and a command with the words behind it. -/
def read (level : Level) (r : Reading) :
    List String → Except Halt (List Given × Option (Command × List String))
  | [] => do return ((← level.accept r.settle).given, none)
  | word :: rest =>
    match level.called? r word with
    | some command => do return ((← level.accept r.settle).given, some (command, rest))
    | none => do level.read (← level.takeWord r word rest) rest

/-! ## What belongs together -/

/-- The given arguments that cannot be given beside an argument. -/
def conflicts (given : List Given) (a : Argument) : List Argument :=
  (given.map (·.argument)).filter fun b =>
    a ≠ b && (a.excludes.contains b.name || b.excludes.contains a.name)

/-- Checks that no given arguments exclude each other, and that none is missing. -/
def check (level : Level) (given : List Given) : Except Halt Unit :=
  let arguments := given.map (·.argument)
  match arguments.find? fun a => !(conflicts given a).isEmpty with
  | some a =>
    let others := conflicts given a
    .error (.refused level (.conflict a others) (some (arguments.filter (!others.contains ·))))
  | none =>
    match level.arguments.filter fun a => a.required && !arguments.contains a with
    | [] => .ok ()
    | missing => .error (.refused level (.missing missing) (some (arguments ++ missing)))

end Level

end ServiceAdmin.Arguments
