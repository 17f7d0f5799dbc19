import Registrar.Rule.Tag
import Registrar.Verdict

/-!
# Validators

A validator takes values that belong to no record, one after the other, each with the name it is
reported by and with its rules, given as such or as a tag. It goes through them in a loop of its own
and judges each as a field of a record is judged.

See section 16 of the specification.

Out of scope: the text of what a log is told.
-/

namespace Registrar

/-- Values to be validated, each with its name and its rules. -/
structure Validator where
  entries : List (String × Value × List Rule)

namespace Validator

/-- The validator without values. -/
def new : Validator := ⟨[]⟩

/-- Take a value with its rules. -/
def add (v : Validator) (key : String) (value : Value) (rules : List Rule) : Validator :=
  ⟨v.entries ++ [(key, value, rules)]⟩

/-- Take a value with a tag. -/
def addTag (v : Validator) (key : String) (value : Value) (tag : String) :
    Except Rule.Fault Validator := do
  let rules ← Rule.parseTag tag
  return v.add key value rules

/-- Judge values one after the other, up to the first that fails fatally. -/
def judgeAll (verdict : Verdict) : List (String × Value × List Rule) → Except Fatal Verdict
  | [] => .ok verdict
  | (key, value, rules) :: rest => do
    let verdict ← Candidate.judge verdict ⟨key, value, rules⟩
    judgeAll verdict rest

/-- The verdict on the values taken. -/
def validate (v : Validator) : Except Fatal Verdict := judgeAll .empty v.entries

end Validator

end Registrar
