import ServiceAdmin.Json.Choice

/-!
# Registrations

What a service registry answers: its own state (`Info`) and the instances that are registered with
it, which it lists by application.
-/

namespace ServiceAdmin.Registry

open Json

/-- A registry that this one replicates with. -/
structure Peer where
  uri : String
  issuer : String
  skipSslValidation : Bool
  deriving DecidableEq, Repr

structure Info where
  nodeCount : Nat
  peers : List Peer
  deriving DecidableEq, Repr

/-- The state that a registered instance reports. -/
inductive Status
  | up
  | down
  | starting
  | outOfService
  | unknown
  deriving DecidableEq, Repr

def Status.text : Status → String
  | up => "UP"
  | down => "DOWN"
  | starting => "STARTING"
  | outOfService => "OUT_OF_SERVICE"
  | unknown => "UNKNOWN"

/-- What the platform noted when it started the instance. -/
structure Metadata where
  appGuid : String
  instanceIndex : String
  zone : String
  deriving DecidableEq, Repr

/-- An instance that is registered under the name `app`. -/
structure Registration where
  app : String
  instanceId : String
  status : Status
  metadata : Metadata
  deriving DecidableEq, Repr

def Peer.shape : Shape Peer := .record {
  title := "RegistryPeer"
  blank := ⟨"", "", false⟩
  members := [
    .needed "uri" .string fun v p => { p with uri := v },
    .free "issuer" .string fun v p => { p with issuer := v },
    .free "skipSslValidation" .boolean fun v p => { p with skipSslValidation := v }]
  closed := false }

def Info.shape : Shape Info := .record {
  title := "InfoResponse"
  blank := ⟨0, []⟩
  members := [
    .free "nodeCount" .natural32 fun v i => { i with nodeCount := v },
    .free "peers" (.list Peer.shape) fun v i => { i with peers := v }]
  closed := false }

/-- A state by its name; a name that is not known stands for the unknown state. -/
def Status.shape : Shape Status :=
  .choice (([up, down, starting, outOfService, unknown] : List Status).map fun s => (s.text, s))
    unknown

def Metadata.blank : Metadata := ⟨"", "", ""⟩

def Metadata.shape : Shape Metadata := .record {
  title := "InstanceMetadata"
  blank := Metadata.blank
  members := [
    .free "cfAppGuid" .string fun v m => { m with appGuid := v },
    .free "cfInstanceIndex" .string fun v m => { m with instanceIndex := v },
    .free "zone" .string fun v m => { m with zone := v }]
  closed := false }

def Registration.shape : Shape Registration := .record {
  title := "RegisteredInstance"
  blank := ⟨"", "", .unknown, Metadata.blank⟩
  members := [
    .needed "app" .string fun v r => { r with app := v },
    .needed "instanceId" .string fun v r => { r with instanceId := v },
    .free "status" Status.shape fun v r => { r with status := v },
    .free "metadata" Metadata.shape fun v r => { r with metadata := v }]
  closed := false }

/-- The registrations of one application. -/
def applicationShape : Shape (List Registration) := .record {
  title := "Application"
  blank := []
  members := [.free "instance" (.list Registration.shape) fun v _ => v]
  closed := false }

def applicationListShape : Shape (List (List Registration)) := .record {
  title := "Applications"
  blank := []
  members := [.free "application" (.list applicationShape) fun v _ => v]
  closed := false }

/-- The registrations of all applications. -/
def applicationsShape : Shape (List (List Registration)) := .record {
  title := "ApplicationsResponse"
  blank := []
  members := [.free "applications" applicationListShape fun v _ => v]
  closed := false }

end ServiceAdmin.Registry
