import Registrar.Descriptor.Basic
import Registrar.Descriptor.Fault
import Registrar.Text.Blank

/-!
# Checking descriptors

Whether what a descriptor says fits together: names do not repeat, the fields that play a role
exist and are of a kind that can play it, and records that can be deleted can be flagged. The first
fault is reported, resource by resource, and within one in the order of the steps below.

See section 12 of the specification.
-/

namespace Registrar.Descriptor

/-- The first name in a list that occurred before. -/
def firstRepeated? : List String → List String → Option String
  | _, [] => none
  | seen, name :: rest =>
    if seen.contains name then some name else firstRepeated? (name :: seen) rest

/-- Whether a kind can identify a record. -/
def isKeyKind (k : Kind) : Bool := k = .int || k = .uint || k = .string

/-- Whether a kind can hold a time. -/
def isTimeKind (k : Kind) : Bool := k = .int || k = .uint

namespace Field

/-- Whether a field is declared to have no column. -/
def isUnpersisted (f : Field) : Bool := f.column.map Text.trim = some "-"

end Field

namespace Resource

/-- The field with a name that is given for a role. -/
def reference (r : Resource) (role : Role) (name : String) : Except Fault Field :=
  match r.field? name with
  | some f => .ok f
  | none => .error (.missingReference role r.name name)

/-- Check that field names do not repeat. -/
def checkFields (r : Resource) : Except Fault Unit :=
  match firstRepeated? [] (r.fields.map (·.name)) with
  | some name => .error (.duplicateField r.name name)
  | none => .ok ()

/-- Check the primary key. -/
def checkPrimaryKey (r : Resource) : Except Fault Unit := do
  let key ← r.reference .primaryKey r.primaryKey
  if key.isUnpersisted then throw (.invalidPrimaryKey r.name key.name .unpersisted)
  if !isKeyKind key.kind then throw (.invalidPrimaryKey r.name key.name .kind)

/-- Check the field for a time, if one is named. -/
def checkTimestamp (r : Resource) (role : Role) : Option String → Except Fault Unit
  | none => .ok ()
  | some name => do
    let field ← r.reference role name
    if !isTimeKind field.kind then throw (.timestampKind role r.name name)

/-- Check the field that flags deleted records. -/
def checkSoftDelete (r : Resource) : Except Fault Unit :=
  match r.softDelete with
  | some name => do
    let field ← r.reference .softDelete name
    if field.kind ≠ .bool then throw (.softDeleteKind r.name name)
  | none =>
    if r.operations.contains .delete then .error (.softDeleteAbsent r.name) else .ok ()

/-- Check a resource by itself. -/
def check (r : Resource) : Except Fault Unit := do
  r.checkFields
  r.checkPrimaryKey
  r.checkTimestamp .created r.created
  r.checkTimestamp .updated r.updated
  r.checkSoftDelete

end Resource

/-- Check resources in order, after those with the names in `seen`. -/
def checkResources : List String → List Resource → Except Fault Unit
  | _, [] => .ok ()
  | seen, r :: rest =>
    if seen.contains r.name then .error (.duplicateResource r.name)
    else do
      r.check
      checkResources (r.name :: seen) rest

/-- Check a descriptor document. -/
def check (d : Descriptor) : Except Fault Unit :=
  if d.resources.isEmpty then .error .noResources else checkResources [] d.resources

end Registrar.Descriptor
