import ServiceAdmin.Program.Run

/-!
# The command line

Runs the program in the surroundings that this build has: the environment, files, standard output
and standard error.  It starts no other program and opens no connection, so a run of `cf` is told
not to have started, and a message not to have got through.  It knows of no accounts, local time is
UTC, and the log has no filter and no times.
-/

namespace ServiceAdmin.Main

/-- The environment variables that the program looks at. -/
def variableNames : List String :=
  ["HOME", "XDG_CONFIG_HOME", "SCS_CONFIG_PATH", "SCS_BROKER_HOST_PREFIX", "NO_COLOR"]

def environment : IO Environment := do
  let values ← variableNames.mapM fun name => do return (name, ← IO.getEnv name)
  return ⟨values.filterMap fun (name, value) => value.map (name, ·), none, .utc⟩

/-- Why a file was not read; the number of an error may be negated. -/
def readFault : IO.Error → ReadFault
  | .noFileOrDirectory .. => .notFound
  | .inappropriateType _ code details =>
    let number := min code (0 - code)
    if number = 20 then .notDirectory else if number = 21 then .isDirectory else .other details
  | e => .other (toString e)

/-- The text of a file. -/
def fileText (path : String) : IO (Except ReadFault String) := do
  match ← (IO.FS.readBinFile path).toBaseIO with
  | .ok content => return (Text.Utf8.decode? content.toList).mapError fun _ => .notText
  | .error e => return .error (readFault e)

/-- What a question of the program is answered. -/
def answer : (q : Program.Query) → IO q.Answer
  | .cf _ => return .notStarted "No such file or directory (os error 2)"
  | .send _ => return .unreachable "Network is unreachable (os error 101)"
  | .fileText path => fileText path
  | .print text => IO.print text
  | .warn w => IO.eprintln ("WARN " ++ w.message)

/-- Carries out a dialogue of the program. -/
def carryOut {α : Type} : Dialogue Program.world α → IO α
  | .done a => return a
  | .ask q next => do carryOut (next (← answer q))

/-- Runs the program; gives its exit status. -/
def start (args : List String) : IO UInt32 := do
  let env ← environment
  let ending ← carryOut (Program.run env ("scs" :: args))
  IO.eprint (ending.errors env)
  return ending.status

end ServiceAdmin.Main

def main (args : List String) : IO UInt32 := ServiceAdmin.Main.start args
