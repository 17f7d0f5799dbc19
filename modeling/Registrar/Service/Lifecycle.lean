import Registrar.Failure

/-!
# Lifecycles

Before a record is written it passes a hook, which may change it or refuse it. The hooks of a
lifecycle are given the time, in milliseconds. Every hook here ends in a check of the record
against the rules of its fields.

See section 18 of the specification.

Out of scope: the reading of a clock, whose time is taken as given.
-/

namespace Registrar

/-- A record that passes the rules of its fields. -/
def Record.check (r : Record) : Except Failure Unit :=
  match r.validate with
  | .error fault => .error (.fatal fault)
  | .ok verdict =>
    if verdict.isValid then .ok () else .error (.validation r.schema.collection verdict)

/-- What is done to a record before it is inserted, and before it is written over a row. -/
structure Lifecycle where
  preInsert : Int64 → Record → Except Failure Record
  preUpdate : Int64 → Record → Except Failure Record

namespace Lifecycle

/-- Check a record, and give it back. -/
def checked (r : Record) : Except Failure Record := r.check.map fun _ => r

/-- Set the field for a time, if there is one. -/
def stampAt (now : Int64) (r : Record) (i : Option (Fin r.schema.fields.length)) :
    Except Failure Record :=
  match i with
  | none => .ok r
  | some i =>
    match r.setAt i (.int now) with
    | .ok stamped => .ok stamped
    | .error fault => .error (.record fault)

/-- Set the time of creation. -/
def stampCreated (now : Int64) (r : Record) : Except Failure Record :=
  stampAt now r r.schema.created

/-- Set the time of the last change. -/
def stampUpdated (now : Int64) (r : Record) : Except Failure Record :=
  stampAt now r r.schema.updated

/-- Records are checked only. -/
def plain : Lifecycle := ⟨fun _ => checked, fun _ => checked⟩

/-- Records get the time of creation and of the last change, and are checked then. -/
def stamped : Lifecycle where
  preInsert now r := stampCreated now r >>= stampUpdated now >>= checked
  preUpdate now r := stampUpdated now r >>= checked

/-- No record is inserted; changes are checked. -/
def closed (why : String) : Lifecycle where
  preInsert _ _ := .error (.badRequest (.other why))
  preUpdate _ := checked

end Lifecycle

end Registrar
