import ServiceAdmin.FileTree
import ServiceAdmin.Json.Decode
import ServiceAdmin.Json.Record
import ServiceAdmin.Report.Timestamp

/-!
# Configuration

Settings come from three layers: defaults, a JSON file that may be missing, and the environment,
which has the last word on the broker's host.
-/

namespace ServiceAdmin

/-- What the program finds set up for its user. -/
structure Environment where
  /-- The variables that are set, with their values. -/
  assigned : List (String × String)
  /-- The home directory that the user's account has. -/
  accountHome : Option String
  /-- The zone of local time. -/
  zone : Report.Zone

def Environment.lookup (env : Environment) (name : String) : Option String :=
  env.assigned.lookup name

/-- A variable that is set and not blank. -/
def Environment.filled? (env : Environment) (name : String) : Option String :=
  match env.lookup name with
  | some value => if Text.isAllBlank value then none else some value
  | none => none

/-- The home directory of the user; the variable comes before the account. -/
def Environment.home? (env : Environment) : Option String :=
  ((env.lookup "HOME").filter (· ≠ "")).or (env.accountHome.filter (· ≠ ""))

def isAbsolute (path : String) : Bool := path.toList.head? = some '/'

/-- A path below another one, unless it is absolute. -/
def joinPath (base path : String) : String :=
  if isAbsolute path || base = "" then path
  else if base.toList.getLast? = some '/' then base ++ path
  else base ++ "/" ++ path

/-- The path without blanks around it, where a `~` at its front stands for the home directory. -/
def expandTilde (env : Environment) (path : String) : String :=
  let home := env.home?.getD "~"
  match Text.trimChars path.toList with
  | ['~'] => home
  | '~' :: '/' :: rest => joinPath home (String.ofList rest)
  | '~' :: '\\' :: rest => joinPath home (String.ofList rest)
  | path => String.ofList path

/-- The directory for the configuration of programs. -/
def configDirectory (env : Environment) : String :=
  match env.lookup "XDG_CONFIG_HOME", env.home? with
  | some dir, home => if isAbsolute dir then dir else fallback home
  | none, home => fallback home
where
  /-- The directory below the home directory, or the current one. -/
  fallback : Option String → String
    | some home => joinPath home ".config"
    | none => "."

/-- The path of the configuration file. -/
def configPath (env : Environment) : String :=
  match env.filled? "SCS_CONFIG_PATH" with
  | some path => expandTilde env path
  | none => joinPath (joinPath (configDirectory env) "scs") "config.json"

structure Config where
  /-- Replaces the first label of the platform's API host to give the host of the central broker. -/
  brokerHostPrefix : String
  connectTimeoutSecs : Nat
  deriving DecidableEq, Repr

/-- Why a configuration file is of no use. -/
inductive ConfigError
  | unreadable (path : String) (fault : ReadFault)
  | invalid (path reason : String)
  deriving DecidableEq, Repr

def ConfigError.message : ConfigError → String
  | unreadable path fault => s!"configuration I/O error for {path}: " ++ fault.message
  | invalid path reason => s!"configuration file {path} is invalid: {reason}"

namespace Config

def default : Config := ⟨"scs-service-broker.", 30⟩

open Json in
/-- The configuration as a closed JSON record. -/
def shape : Shape Config := .record {
  title := "PluginConfig"
  blank := default
  members := [
    .free "brokerHostPrefix" .string fun v c => { c with brokerHostPrefix := v },
    .free "connectTimeoutSecs" .natural64 fun v c => { c with connectTimeoutSecs := v }]
  closed := true }

/-- The configuration of a file that was read; the defaults if it is missing. -/
def ofFile (path : String) : Except ReadFault String → Except ConfigError Config
  | .ok text => (Json.decodeText shape text).mapError (.invalid path)
  | .error .notFound => .ok default
  | .error fault => .error (.unreadable path fault)

/-- The configuration with what the environment sets. -/
def override (env : Environment) (config : Config) : Config :=
  match env.filled? "SCS_BROKER_HOST_PREFIX" with
  | some value => { config with brokerHostPrefix := Text.trim value }
  | none => config

/-- The configuration from what was read from the file at `configPath`. -/
def ofContent (env : Environment) (content : Except ReadFault String) :
    Except ConfigError Config :=
  (ofFile (configPath env) content).map (override env)

/-- The configuration of an environment and a file tree. -/
def load (env : Environment) (tree : FileTree) : Except ConfigError Config :=
  ofContent env (tree.read (configPath env))

end Config

end ServiceAdmin
