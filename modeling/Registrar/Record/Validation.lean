import Registrar.Record.Basic
import Registrar.Verdict

/-!
# Validation of records

The value of every field, hidden and unpersisted ones included, must pass the rules of the field.

See section 16 of the specification.

Out of scope: the warning in a log when a failure is fatal.
-/

namespace Registrar.Record

/-- The values of a record with their fields' names and rules. -/
def candidates (r : Record) : List Candidate :=
  r.cells.map fun (_, f, v) => ⟨f.name, v, f.rules⟩

/-- The verdict on a record. -/
def validate (r : Record) : Except Fatal Verdict := Registrar.validate r.candidates

end Registrar.Record
