import ServiceAdmin.Arguments.Match
import ServiceAdmin.FileTree
import ServiceAdmin.Registry.Action
import ServiceAdmin.Service.Operation

/-!
# Tasks

The commands of the program, and the task that each of them sets.
-/

namespace ServiceAdmin.Program

open Arguments (Argument Command Grammar Match)

/-- What the user wants done with a service instance. -/
inductive Task
  | registryInfo
  | registryList
  /-- Acts on the registrations of an application, or on the one with the index. -/
  | registryAction (action : Registry.InstanceAction) (app : String) (index : Option Nat)
  | operation (operation : Service.Operation)
  /-- Encrypts a value, or else the content of a file. -/
  | encrypt (value file : Option String)
  deriving DecidableEq, Repr

/-- Why a command cannot be carried out. -/
inductive CommandError
  | unknownCommand (name : String)
  | unreadableFile (path : String) (fault : ReadFault)
  | nothingToEncrypt
  deriving DecidableEq, Repr

def CommandError.message : CommandError → String
  | unknownCommand name => "unknown command: " ++ name
  | unreadableFile path fault => "Error reading file " ++ path ++ ": " ++ fault.message
  | nothingToEncrypt => "Either a value or --file-to-encrypt must be given"

/-! ## Arguments -/

/-- An argument that must be given by its place. -/
def place (name about : String) : Argument := ⟨name, none, .positional, .text, true, [], about⟩

def serviceInstance : Argument := place "service-instance" "Name of the service instance"

def appName : Argument := place "cf-app-name" "Name of the bound application"

def instanceIndex : Argument := ⟨"cf-instance-index", some 'i', .option, .upTo Number.max32, false,
  [], "Only act on the application instance with this index"⟩

def value : Argument := ⟨"value", none, .positional, .text, false, ["file-to-encrypt"],
  "Value to encrypt"⟩

def fileToEncrypt : Argument := ⟨"file-to-encrypt", some 'f', .option, .text, false, [],
  "Encrypt the contents of this file"⟩

def secretPath : Argument :=
  place "path" "\x7bappName\x7d/\x7bprofile\x7d/\x7blabel\x7d/\x7bpropertyName\x7d"

def secret : Argument := place "secret" "Secret as a JSON value"

def repository : Argument := place "repo" "URI of the git repository"

def skipSslValidation : Argument := ⟨"skip-ssl-validation", none, .flag, .text, false, [],
  "Skip verification of TLS certificates"⟩

def help : Argument := ⟨"help", some 'h', .help, .text, false, [], "Print help"⟩

def version : Argument := ⟨"version", some 'V', .version, .text, false, [], "Print version"⟩

/-! ## Commands -/

/-- The value of an argument that is given. -/
def valueOf (m : Match) (a : Argument) : String := (m.value? a.name).getD ""

/-- The index that is given. -/
def indexOf (m : Match) : Option Nat := do
  let text ← m.value? instanceIndex.name
  let index ← (Number.readInt Number.max32 Number.max32 text.toList).toOption
  return index.toNat

/-- A command, and the task that it sets. -/
structure Entry where
  command : Command
  task : Match → Task

/-- A command on a service instance; `more` are the arguments behind its name. -/
def entry (name about : String) (more : List Argument) (task : Match → Task) : Entry :=
  ⟨⟨name, about, serviceInstance :: more ++ [skipSslValidation, help]⟩, task⟩

def registryEntry (name about : String) (action : Registry.InstanceAction) : Entry :=
  entry name about [appName, instanceIndex] fun m =>
    .registryAction action (valueOf m appName) (indexOf m)

def operationEntry (name about : String) (operation : Service.Operation) : Entry :=
  entry name about [] fun _ => .operation operation

def registryEntries : List Entry := [
  entry "service-registry-info" "Display service registry information" [] fun _ => .registryInfo,
  entry "service-registry-list" "Display all applications registered with a service registry" []
    fun _ => .registryList,
  registryEntry "service-registry-deregister"
    "Deregister an application instance from a service registry" .deregister,
  registryEntry "service-registry-enable"
    "Enable an application instance registered with a service registry" .enable,
  registryEntry "service-registry-disable"
    "Disable an application instance registered with a service registry" .disable]

def configServerEntries : List Entry := [
  entry "config-server-encrypt-value" "Encrypt a value using a config server"
    [value, fileToEncrypt] fun m => .encrypt (m.value? value.name) (m.value? fileToEncrypt.name),
  operationEntry "config-server-refresh-mirror"
    "Refresh the mirrored git repositories of a config server" .refreshMirrors,
  entry "config-server-credhub-add-secret" "Add a secret to the CredHub store of a config server"
    [secretPath, secret] fun m => .operation (.addSecret (valueOf m secretPath) (valueOf m secret)),
  entry "config-server-credhub-remove-secret"
    "Remove a secret from the CredHub store of a config server" [secretPath]
    fun m => .operation (.removeSecret (valueOf m secretPath)),
  entry "config-server-delete-git-repo" "Delete a mirrored git repository from a config server"
    [repository] fun m => .operation (.deleteRepository (valueOf m repository))]

def instanceEntries : List Entry := [
  operationEntry "service-instance-start" "Start a service instance" (.lifecycle .start),
  operationEntry "service-instance-stop" "Stop a service instance" (.lifecycle .stop),
  operationEntry "service-instance-restart" "Restart a service instance" (.lifecycle .restart),
  operationEntry "service-instance-restage" "Restage a service instance" (.lifecycle .restage),
  operationEntry "service-instance-view" "Display the backing applications of a service instance"
    .view,
  operationEntry "service-instance-parameters" "Display the parameters of a service instance"
    .parameters]

def entries : List Entry := registryEntries ++ configServerEntries ++ instanceEntries

def grammar : Grammar where
  name := "scs"
  version := "0.1.0"
  about := "Manage Spring Cloud Services instances"
  arguments := [skipSslValidation, help, version]
  commands := entries.map (·.command)

/-! ## Invocations -/

/-- What a command line asks for. -/
structure Invocation where
  command : String
  service : String
  /-- Whether any certificate is accepted. -/
  skipSslValidation : Bool
  task : Task
  deriving DecidableEq, Repr

/-- What a command line that was read asks for. -/
def Invocation.ofMatch (m : Match) : Except CommandError Invocation :=
  match entries.find? (·.command.name = m.command) with
  | some e =>
    .ok ⟨m.command, valueOf m serviceInstance, m.has Program.skipSslValidation.name, e.task m⟩
  | none => .error (.unknownCommand m.command)

end ServiceAdmin.Program
