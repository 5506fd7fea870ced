import ServiceAdmin.Config
import ServiceAdmin.Diagnostics.Hint
import ServiceAdmin.Program.Task
import ServiceAdmin.Program.World
import ServiceAdmin.Registry.View

/-!
# Running the program

A command line is read, the configuration is loaded, and the task is carried out.  What was asked
for is printed; a failure is told apart from it, and decides the exit status.  The log is told apart
as well, and stands before the failure.
-/

namespace ServiceAdmin.Program

/-- Why the program fails. -/
inductive Failure
  | arguments (halt : Arguments.Halt)
  | command (e : CommandError)
  | config (e : ConfigError)
  | action (e : Error)
  deriving DecidableEq, Repr

def Failure.message : Failure → String
  | arguments halt => halt.text grammar
  | command e => e.message
  | config e => e.message
  | action e => e.message

/-- A run that ends with a value or with a failure. -/
abbrev Run (α : Type) := ExceptT Failure (Dialogue world) α

def failWith {ε α : Type} (kind : ε → Failure) (d : Dialogue world (Except ε α)) : Run α :=
  ExceptT.mk do return (← d).mapError kind

/-! ## Tasks -/

def bold (s : String) : String := "\x1b[1m" ++ s ++ "\x1b[0m"

/-- Tells what is done with a service instance, and as whom. -/
def preamble (doing service : String) : Service.Action Unit := do
  let user ← Service.ofExcept .platform (← Service.askPlatform .username)
  let org ← Service.ofExcept .platform (← Service.askPlatform .org)
  let space ← Service.ofExcept .platform (← Service.askPlatform .space)
  Service.tell (doing ++ " service instance " ++ bold service ++ " in org " ++ bold org ++
    " / space " ++ bold space ++ " as " ++ bold user ++ "...\n")

/-- The text to encrypt; a file comes before a value. -/
def plaintext (value file : Option String) : Dialogue world (Except CommandError String) :=
  match file, value with
  | some path, _ => do return (← fileText path).mapError (.unreadableFile path)
  | none, some value => return .ok value
  | none, none => return .error .nothingToEncrypt

/-- The operation that an invocation asks for. -/
def Invocation.operation (i : Invocation) :
    Dialogue world (Except CommandError Service.Operation) :=
  match i.task with
  | .operation operation => return .ok operation
  | .encrypt value file => do return (← plaintext value file).map .encrypt
  | .registryInfo | .registryList | .registryAction .. => return .error (.unknownCommand i.command)

/-- Carries out an operation. -/
def operate (zone : Report.Zone) (hostPrefix service : String) (operation : Service.Operation) :
    Service.Action String := do
  if operation = .view then preamble "Getting backing applications of" service
  Service.perform zone hostPrefix service operation

/-- Carries out the task of an invocation; gives what it prints at the end. -/
def Invocation.perform (i : Invocation) (zone : Report.Zone) (hostPrefix : String) : Run String :=
  match i.task with
  | .registryAction action app index => do
    failWith .action (carryOut (Registry.operate hostPrefix i.service app index action))
    return ""
  | .registryInfo =>
    failWith .action (carryOut do
      preamble "Getting service registry info from" i.service
      Registry.info hostPrefix i.service)
  | .registryList =>
    failWith .action (carryOut do
      preamble "Listing service registry applications of" i.service
      Registry.list hostPrefix i.service)
  | .operation _ | .encrypt .. => do
    let operation ← failWith .command i.operation
    failWith .action (carryOut (operate zone hostPrefix i.service operation))

/-- Loads the configuration. -/
def loadConfig (env : Environment) : Dialogue world (Except ConfigError Config) := do
  return Config.ofContent env (← fileText (configPath env))

/-- Prints a text and a line end, if neither it is empty nor it has one. -/
def printOutput (output : String) : Dialogue world Unit :=
  match output.toList.getLast? with
  | none => return ()
  | some '\n' => print output
  | some _ => print (output ++ "\n")

/-- What is warned of before anything is carried out. -/
def Invocation.warning? (i : Invocation) : Option Warning :=
  if i.skipSslValidation then some .validationDisabled else none

/-- Carries out an invocation. -/
def Invocation.run (env : Environment) (i : Invocation) : Run Unit := do
  let config ← failWith .config (loadConfig env)
  ExceptT.lift (warn i.warning?)
  let output ← i.perform env.zone config.brokerHostPrefix
  ExceptT.lift (printOutput output)

/-! ## The program -/

/-- How the program ends. -/
inductive Ending
  | success
  | failure (message : String)
  deriving DecidableEq, Repr

namespace Ending

def status : Ending → UInt32
  | success => 0
  | failure _ => 1

/-- The line that begins the report of a failure; a variable turns its colour off. -/
def failedLine (env : Environment) : String :=
  let plain := (env.lookup "NO_COLOR").any (· ≠ "")
  (if plain then "\x1b[m" else "\x1b[38;5;9m") ++ bold "FAILED" ++ "\n"

/-- What is printed of a failure. -/
def errors (env : Environment) : Ending → String
  | success => ""
  | failure message =>
    failedLine env ++ message ++ "\n" ++
      match Diagnostics.hint? message with
      | some hint => hint ++ "\n"
      | none => ""

end Ending

/-- What is written into the log while these questions are asked.  The entries have their times, and
a filter for them can be set in the environment; it only lets warnings pass if none is set. -/
abbrev Log := List Query → String

/-- All that is printed as errors. -/
def stderr (log : Log) (env : Environment) (asked : List Query) (ending : Ending) : String :=
  log asked ++ ending.errors env

/-- Carries out what a command line asks for. -/
def follow (env : Environment) (m : Arguments.Match) : Run Unit := do
  let i ← failWith .command (return Invocation.ofMatch m)
  i.run env

/-- Runs the program on a command line. -/
def run (env : Environment) (words : List String) : Dialogue world Ending :=
  match grammar.read words with
  | .error halt =>
    if halt.isWanted then do
      print (halt.text grammar ++ "\n")
      return .success
    else return .failure (Failure.arguments halt).message
  | .ok m => do
    match ← (follow env m).run with
    | .ok () => return .success
    | .error failure => return .failure failure.message

end ServiceAdmin.Program
