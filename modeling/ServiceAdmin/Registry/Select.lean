import ServiceAdmin.Error
import ServiceAdmin.Number.Decimal
import ServiceAdmin.Registry.Record

/-!
# Selecting records

The records of one application, and of one of its instances if an index is given.
-/

namespace ServiceAdmin.Registry

/-- Whether a record belongs to an application. -/
def Record.belongsTo (appName : String) (r : Record) : Bool := r.isBound && r.appName = appName

/-- The records with the index; the index of every record must be a numeral. -/
def withIndex (index : Nat) : List Record → Except ValidationError (List Record)
  | [] => .ok []
  | r :: rest =>
    match Number.readNat Number.max32 r.instanceIndex.toList with
    | .error fault => .error (.invalidInstanceIndex r.instanceIndex fault.message)
    | .ok n => (withIndex index rest).map fun rs => if n = index then r :: rs else rs

/-- The records of an application, in their order. -/
def select (appName : String) (index : Option Nat) (records : List Record) :
    Except Error (List Record) :=
  match records.filter (Record.belongsTo appName), index with
  | [], _ => .error (.lookup (.appNotFound appName))
  | matching, none => .ok matching
  | matching, some index =>
    match withIndex index matching with
    | .error e => .error (.validation e)
    | .ok [] => .error (.lookup (.instanceIndexNotFound index))
    | .ok selected => .ok selected

end ServiceAdmin.Registry
