import Registrar.Descriptor.Check
import Registrar.Descriptor.Reader
import Registrar.Key
import Registrar.Schema

/-!
# Registries

A registry holds the schemas of a descriptor document, in the order of its resources. It is built
once (`resolve`): the descriptor is checked as a whole, and then the resources are resolved one
after the other, each with its rules first and its roles after them.

See section 12 of the specification.

Out of scope: the sharing of schemas between requests.
-/

namespace Registrar

/-- The schemas of a descriptor document. -/
structure Registry where
  schemas : List Schema

namespace Registry

/-- The schema with a name. -/
def get? (r : Registry) (name : String) : Option Schema := r.schemas.find? (·.name = name)

end Registry

namespace Descriptor

/-- Whether an update may change a field, from what the descriptor says. -/
def mergeFlag (merge : Option String) : Option Bool :=
  match merge.map Text.trim with
  | some "true" => some true
  | some "false" => some false
  | _ => none

/-- Settle the keys and the rules of a field of a resource. -/
def Field.resolve (resource : String) (f : Field) : Except Fault Registrar.Field :=
  let tag := f.validate.getD ""
  match Rule.parseTag tag with
  | .error cause => .error (.invalidRule resource f.name cause)
  | .ok rules => .ok
    { name := f.name
      kind := f.kind
      jsonKey := Key.choose f.json (Key.camel f.name)
      column := Key.choose f.column f.name
      omitEmpty := f.omitEmpty
      tag := tag
      rules := rules
      mergeable := mergeFlag f.merge }

/-- The index of the field with a name, among the fields of a resource. -/
def indexIn (resource : String) (fields : List Registrar.Field) (name : String) :
    Except Fault (Fin fields.length) :=
  match fields.findFinIdx? (·.name = name) with
  | some i => .ok i
  | none => .error (.missingReference .field resource name)

/-- The index of the field with a name, if a name is given. -/
def optionalIndexIn (resource : String) (fields : List Registrar.Field) :
    Option String → Except Fault (Option (Fin fields.length))
  | none => .ok none
  | some name => (indexIn resource fields name).map some

/-- The schema of a resource. -/
def Resource.resolve (r : Resource) : Except Fault Schema := do
  let fields ← r.fields.mapM (Field.resolve r.name)
  let primaryKey ← indexIn r.name fields r.primaryKey
  let created ← optionalIndexIn r.name fields r.created
  let updated ← optionalIndexIn r.name fields r.updated
  let softDelete ← optionalIndexIn r.name fields r.softDelete
  return {
    name := r.name
    collection := r.collection.getD r.name
    fields := fields
    primaryKey := primaryKey
    autoKey := r.autoKey
    created := created
    updated := updated
    softDelete := softDelete
    operations := Operation.all.filter r.operations.contains }

/-- The registry of a descriptor document. -/
def resolve (d : Descriptor) : Except Fault Registry := do
  d.check
  let schemas ← d.resources.mapM Resource.resolve
  return ⟨schemas⟩

/-- The registry of a descriptor document, from its text. -/
def load (text : String) : Except Fault Registry :=
  match parse text with
  | .ok d => d.resolve
  | .error cause => .error (.load cause)

end Descriptor

end Registrar
