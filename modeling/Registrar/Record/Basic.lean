import Registrar.Schema
import Registrar.Value.Json

/-!
# Records

A record has a value for every field of its schema, in the order of the fields. It starts with the
zeros of the kinds (`Record.blank`), and what is set is conformed to the kind of the field first.

* A document is read by the keys of the fields (`ofJson`): other keys are passed over, absent ones
  leave the zero.
* A record is written as a document in full (`toJson`) or with chosen keys (`project`).

See section 13 of the specification.
-/

namespace Registrar

/-- Why a value cannot be set. -/
inductive RecordFault where
  | unknownField (schema field : String)
  /-- The value is not of the kind of the field. -/
  | kindMismatch (schema field expected got : String)
  deriving DecidableEq, Repr

/-- The fault in words. -/
def RecordFault.message : RecordFault → String
  | .unknownField schema field => schema ++ " has no field '" ++ field ++ "'"
  | .kindMismatch schema field expected got =>
    schema ++ "." ++ field ++ ": expected " ++ expected ++ ", got " ++ got

/-- Why a document is no record. -/
inductive DecodeFault where
  /-- The text is no document. -/
  | malformed
  | notAnObject
  /-- The value under a key is not of the kind of the field. -/
  | kindMismatch (key expected got : String)
  deriving DecidableEq, Repr

/-- The fault in words. -/
def DecodeFault.message : DecodeFault → String
  | .malformed => "malformed json"
  | .notAnObject => "body must be a JSON object"
  | .kindMismatch key expected got => key ++ ": expected " ++ expected ++ ", got " ++ got

/-- A value for every field of a schema. -/
structure Record where
  schema : Schema
  values : List Value
  length_values : values.length = schema.fields.length

namespace Record

/-- The record of a schema that nothing was set in. -/
def blank (s : Schema) : Record :=
  ⟨s, s.fields.map fun f => Value.zero f.kind, List.length_map _⟩

/-- The value of the field with an index. -/
def value (r : Record) (i : Fin r.schema.fields.length) : Value :=
  r.values.get (i.cast r.length_values.symm)

/-- The value of the field with a name. -/
def get? (r : Record) (name : String) : Option Value := (r.schema.index? name).map r.value

/-- The key of a record. -/
def key (r : Record) : Value := r.value r.schema.primaryKey

/-- Put a value in place of the one of the field with an index. -/
def put (r : Record) (i : Fin r.schema.fields.length) (v : Value) : Record :=
  ⟨r.schema, r.values.set i v, by rw [List.length_set, r.length_values]⟩

/-- Set the field with an index. -/
def setAt (r : Record) (i : Fin r.schema.fields.length) (v : Value) : Except RecordFault Record :=
  let f := r.schema.fields.get i
  match v.coerce? f.kind with
  | some w => .ok (r.put i w)
  | none => .error (.kindMismatch r.schema.name f.name f.kind.name v.sort)

/-- Set the field with a name. -/
def set (r : Record) (name : String) (v : Value) : Except RecordFault Record :=
  match r.schema.index? name with
  | some i => r.setAt i v
  | none => .error (.unknownField r.schema.name name)

/-- Flag a record as deleted, if its schema has a field for that. -/
def flagged? (r : Record) : Option Record := r.schema.softDelete.map fun i => r.put i (.bool true)

/-- Equality as it is seen from outside: schemas of one name, and equal values. -/
def beq (a b : Record) : Bool := a.schema.name == b.schema.name && a.values == b.values

instance : BEq Record := ⟨beq⟩

/-! ## Documents -/

/-- The value of a field in the members of a document. -/
def decodeField (members : List (String × Json)) (f : Field) : Except DecodeFault Value :=
  match f.jsonKey with
  | none => .ok (.zero f.kind)
  | some key =>
    match Entries.get? members key with
    | none => .ok (.zero f.kind)
    | some j =>
      let v := Value.ofJson j
      match v.coerce? f.kind with
      | some w => .ok w
      | none => .error (.kindMismatch key f.kind.name v.sort)

/-- The values of fields in the members of a document, one for each. -/
def decodeFields (members : List (String × Json)) :
    (fields : List Field) → Except DecodeFault { vs : List Value // vs.length = fields.length }
  | [] => .ok ⟨[], rfl⟩
  | f :: rest => do
    let v ← decodeField members f
    let ⟨vs, h⟩ ← decodeFields members rest
    return ⟨v :: vs, congrArg (· + 1) h⟩

/-- The record that a document stands for. -/
def ofJson (s : Schema) : Json → Except DecodeFault Record
  | .object members => (decodeFields members s.fields).map fun vs => ⟨s, vs.1, vs.2⟩
  | _ => .error .notAnObject

/-- The fields of a record with their indexes and values. -/
def cells (r : Record) : List (Fin r.schema.fields.length × Field × Value) :=
  r.schema.indexed.map fun e => (e.1, e.2, r.value e.1)

/-- A record as a document. Hidden fields do not show, and neither do absent values of fields that
leave them out. -/
def toJson (r : Record) : Json :=
  Json.ofPairs <| r.cells.filterMap fun (_, f, v) =>
    f.jsonKey.bind fun key =>
      if f.omitEmpty && v.isZero then none else some (key, v.toJson)

/-- A record as a document with its key and the fields under the given keys only. -/
def project (r : Record) (keys : List String) : Json :=
  Json.ofPairs <| r.cells.filterMap fun (i, f, v) =>
    f.jsonKey.bind fun key =>
      if i = r.schema.primaryKey || keys.contains key then some (key, v.toJson) else none

end Record

end Registrar
