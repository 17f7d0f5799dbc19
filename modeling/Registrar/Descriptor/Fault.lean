import Registrar.Descriptor.Slot
import Registrar.Rule.Tag

/-!
# What is wrong with a descriptor

The faults of a descriptor document, from text that cannot be read to roles played by the wrong
fields, and the words for each.

See section 12 of the specification.
-/

namespace Registrar.Descriptor

/-- The part that a named field is to play in its resource. -/
inductive Role where
  | primaryKey
  | created
  | updated
  | softDelete
  /-- Any part, when a field is looked up in a schema that is being built. -/
  | field
  deriving DecidableEq, Repr

/-- A role in words. -/
def Role.name : Role → String
  | .primaryKey => "primary key field"
  | .created => "created timestamp"
  | .updated => "updated timestamp"
  | .softDelete => "soft delete field"
  | .field => "field"

/-- Why a field cannot be the primary key. -/
inductive KeyFlaw where
  | unpersisted
  | kind
  deriving DecidableEq, Repr

/-- The flaw in words. -/
def KeyFlaw.message : KeyFlaw → String
  | .unpersisted => "must be persisted"
  | .kind => "kind must be int, uint or string"

/-- What is wrong with a descriptor. -/
inductive Fault where
  /-- The document cannot be read. -/
  | load (cause : ReadFault)
  /-- The document declares no resource. -/
  | noResources
  | duplicateResource (name : String)
  | duplicateField (resource field : String)
  /-- No field has the name that is given for a role. -/
  | missingReference (role : Role) (resource field : String)
  | invalidPrimaryKey (resource field : String) (flaw : KeyFlaw)
  /-- The field for a time is not of a kind that can hold one. -/
  | timestampKind (role : Role) (resource field : String)
  /-- The field that flags deleted records is no truth value. -/
  | softDeleteKind (resource field : String)
  /-- Records can be deleted, but no field flags them. -/
  | softDeleteAbsent (resource : String)
  | invalidRule (resource field : String) (cause : Rule.Fault)
  deriving DecidableEq, Repr

/-- The fault in words. -/
def Fault.message : Fault → String
  | .load cause =>
    match cause.report? with
    | some report => "config load: " ++ report
    | none => "config load"
  | .noResources => "validation: at least one resource required"
  | .duplicateResource name => "duplicate resource: " ++ name
  | .duplicateField resource field => "duplicate field: resource " ++ resource ++ " field " ++ field
  | .missingReference role resource field =>
    "missing reference: " ++ role.name ++ " '" ++ resource ++ "." ++ field ++ "'"
  | .invalidPrimaryKey resource field flaw =>
    "invalid primary key: resource " ++ resource ++ " field " ++ field ++ ": " ++ flaw.message
  | .timestampKind role resource field =>
    "validation: " ++ resource ++ "." ++ field ++ ": " ++ role.name ++ " must be int or uint"
  | .softDeleteKind resource field =>
    "validation: " ++ resource ++ "." ++ field ++ ": soft delete field must be bool"
  | .softDeleteAbsent resource =>
    "validation: " ++ resource ++ ": delete operation requires a soft_delete field"
  | .invalidRule resource field cause =>
    "invalid rule on " ++ resource ++ "." ++ field ++ ": " ++ cause.message

end Registrar.Descriptor
