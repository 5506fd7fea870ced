import ServiceAdmin.Registry.Registration

/-!
# Records of the registry

A record is a registration together with the platform application that it belongs to.  A
registration that belongs to none is unbound: its record has no application GUID, and question marks
stand for the name of the application and the index of the instance.
-/

namespace ServiceAdmin.Registry

structure Record where
  appGuid : String
  appName : String
  /-- The name that the registry has for the application. -/
  registeredName : String
  instanceId : String
  status : Status
  zone : String
  instanceIndex : String
  deriving DecidableEq, Repr

namespace Record

def unknownAppName : String := "?????"

def unknownIndex : String := "?"

def unbound (r : Registration) : Record :=
  ⟨"", unknownAppName, r.app, r.instanceId, r.status, r.metadata.zone, unknownIndex⟩

def bound (r : Registration) (appName : String) : Record :=
  ⟨r.metadata.appGuid, appName, r.app, r.instanceId, r.status, r.metadata.zone,
    r.metadata.instanceIndex⟩

def isBound (r : Record) : Bool := r.appGuid ≠ ""

end Record

end ServiceAdmin.Registry
