import Registrar.Rule.Basic
import Registrar.Value.Json

/-!
# Verdicts

A verdict names the fields that fail a rule. Every rule of every field is checked, so that a
failure hides neither another failure nor a fatal one; the first fatal failure, in the order of
the fields and of their rules, is the answer in place of a verdict.

See sections 4.2 and 16 of the specification.

Out of scope: the warning in a log when a failure is fatal.
-/

namespace Registrar

/-- A rule failed where a failure stops the validation. -/
structure Fatal where
  field : String
  rule : String
  deriving DecidableEq, Repr

/-- The failure in words. -/
def Fatal.message (f : Fatal) : String :=
  "fatal validation failure on " ++ f.field ++ " (" ++ f.rule ++ ")"

/-- The fields that fail, each with its message. -/
structure Verdict where
  errors : Entries String
  deriving DecidableEq, Repr

namespace Verdict

/-- The verdict without failures. -/
def empty : Verdict := ⟨[]⟩

/-- Whether no field fails. -/
def isValid (v : Verdict) : Bool := v.errors.isEmpty

/-- What is said of a field that fails. -/
def complaint (field : String) : String := field ++ " did not pass validation."

/-- Mark a field as failing. -/
def fail (v : Verdict) (field : String) : Verdict := ⟨v.errors.put field (complaint field)⟩

/-- A verdict as a document. -/
def toJson (v : Verdict) : Json := .object (v.errors.map fun e => (e.1, .string e.2))

/-- A verdict in words. -/
def message (v : Verdict) : String :=
  ",".intercalate (v.errors.map fun e => e.1 ++ " - " ++ e.2)

end Verdict

/-- A value to be validated, with the field it belongs to and the rules it must pass. -/
structure Candidate where
  field : String
  value : Value
  rules : List Rule

namespace Candidate

/-- Whether a value fails any of some rules, all of which are checked; or the first rule that fails
fatally. -/
def failsAny (value : Value) : List Rule → Except String Bool
  | [] => .ok false
  | r :: rest =>
    match r.check value with
    | .pass => failsAny value rest
    | .fail _ => (failsAny value rest).map fun _ => true
    | .fatal rule => .error rule

/-- Add what is to be said of one value to a verdict. -/
def judge (v : Verdict) (c : Candidate) : Except Fatal Verdict :=
  match failsAny c.value c.rules with
  | .ok true => .ok (v.fail c.field)
  | .ok false => .ok v
  | .error rule => .error ⟨c.field, rule⟩

end Candidate

/-- The verdict on some values. -/
def validate (candidates : List Candidate) : Except Fatal Verdict :=
  candidates.foldlM Candidate.judge Verdict.empty

end Registrar
