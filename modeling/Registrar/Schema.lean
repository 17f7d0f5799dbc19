import Registrar.Operation
import Registrar.Rule.Basic

/-!
# Schemas

A schema is a resource ready for use: every field has its keys settled and its rules read, and the
fields that play a role are known by their index, which is in range. Records of a schema hold their
values in the order of its fields.

See section 12 of the specification.
-/

namespace Registrar

/-- A field of a schema. -/
structure Field where
  name : String
  kind : Kind
  /-- The key in documents; none for a field that is never shown. -/
  jsonKey : Option String
  /-- The column; none for a field that is not persisted. -/
  column : Option String
  /-- Whether documents leave the field out when its value counts as absent. -/
  omitEmpty : Bool
  /-- The tag that the rules were read from. -/
  tag : String
  rules : List Rule
  /-- Whether an update may change the field, if that is said. -/
  mergeable : Option Bool

namespace Field

/-- Whether a field has a column. -/
def isPersisted (f : Field) : Bool := f.column.isSome

/-- The column of a field; its name if it has none. -/
def columnName (f : Field) : String := f.column.getD f.name

end Field

/-- A text with its ASCII letters in lower case. -/
def foldCase (s : String) : String := String.ofList (s.toList.map Char.toLower)

/-- A resource ready for use. -/
structure Schema where
  name : String
  /-- Where the records are kept. -/
  collection : String
  fields : List Field
  /-- The field that identifies a record. -/
  primaryKey : Fin fields.length
  /-- Whether the store assigns the key of a record that comes without one. -/
  autoKey : Bool
  /-- The field for the time of creation. -/
  created : Option (Fin fields.length)
  /-- The field for the time of the last change. -/
  updated : Option (Fin fields.length)
  /-- The field that flags a deleted record. -/
  softDelete : Option (Fin fields.length)
  /-- The operations the resource exposes. -/
  operations : List Operation

namespace Schema

/-- The index of the field with a name. -/
def index? (s : Schema) (name : String) : Option (Fin s.fields.length) :=
  s.fields.findFinIdx? (·.name = name)

/-- The field with a name. -/
def field? (s : Schema) (name : String) : Option Field :=
  (s.index? name).map fun i => s.fields.get i

/-- The field that identifies a record. -/
def keyField (s : Schema) : Field := s.fields.get s.primaryKey

/-- The index of the first field whose name or document key is `key`, whatever the case of its
ASCII letters. -/
def lookup? (s : Schema) (key : String) : Option (Fin s.fields.length) :=
  s.fields.findFinIdx? fun f =>
    foldCase f.name = foldCase key || f.jsonKey.any fun j => foldCase j = foldCase key

/-- The fields with their indexes. -/
def indexed (s : Schema) : List (Fin s.fields.length × Field) :=
  (List.finRange s.fields.length).map fun i => (i, s.fields.get i)

/-- The fields that have a column, with their indexes. -/
def persisted (s : Schema) : List (Fin s.fields.length × Field) :=
  s.indexed.filter fun e => e.2.isPersisted

/-- Whether an operation is exposed. -/
def allows (s : Schema) (op : Operation) : Bool := s.operations.contains op

end Schema

end Registrar
