import Registrar.Operation
import Registrar.Value.Kind

/-!
# Descriptors

A descriptor document declares resources: for each its name, its fields and the roles some of the
fields play. What it says is kept as it was written; keys are trimmed, defaults derived and rules
read when a registry is built from it.

See section 12 of the specification.
-/

namespace Registrar

namespace Descriptor

/-- A field as declared. -/
structure Field where
  name : String
  kind : Kind
  /-- The key of the field in documents; `-` for a field that is never shown. -/
  json : Option String
  /-- The column of the field; `-` for a field that is not persisted. -/
  column : Option String
  /-- Whether documents leave the field out when its value counts as absent. -/
  omitEmpty : Bool
  /-- The rules for the field's values, as a tag. -/
  validate : Option String
  /-- Whether an update may change the field: `true`, `false`, or anything else. -/
  merge : Option String
  deriving DecidableEq, Repr

/-- A resource as declared. -/
structure Resource where
  name : String
  /-- Where its rows are kept; under its own name when not given. -/
  collection : Option String
  primaryKey : String
  /-- Whether the store assigns the key of a record that comes without one. -/
  autoKey : Bool
  /-- The field that holds the time of creation. -/
  created : Option String
  /-- The field that holds the time of the last change. -/
  updated : Option String
  /-- The field that flags a deleted record. -/
  softDelete : Option String
  operations : List Operation
  fields : List Field
  deriving DecidableEq, Repr

/-- The declared field with a name. -/
def Resource.field? (r : Resource) (name : String) : Option Field :=
  r.fields.find? (·.name = name)

end Descriptor

/-- A descriptor document. -/
structure Descriptor where
  resources : List Descriptor.Resource
  deriving DecidableEq, Repr

end Registrar
