import Registrar.Failure
import Registrar.Value.Order

/-!
# Conditions on rows

A condition of a query becomes a filter: the index of its field, and its literals read by the kind
of the field. A filter looks at the value a row has at the index; values that are not comparable
still meet `eq` when they are equal.

See section 18 of the specification.
-/

namespace Registrar

/-- Whether an operator accepts how a value compares with its literal. -/
def Operator.accepts : Operator → Ordering → Bool
  | .eq, o => o == .eq
  | .lt, o => o == .lt
  | .lte, o => o != .gt
  | .gt, o => o == .gt
  | .gte, o => o != .lt
  | .among, o => o == .eq

/-- How a value compares with another one; values that are not comparable may still be equal. -/
def Value.relate? (a b : Value) : Option Ordering :=
  match a.compare? b with
  | some o => some o
  | none => if a == b then some .eq else none

/-- A condition with its literals read. -/
structure Filter where
  /-- The index of the field. -/
  index : Nat
  operator : Operator
  operands : List Value

namespace Filter

/-- The filter of a condition on the rows of a schema. -/
def ofCondition (s : Schema) (c : Condition) : Except Failure Filter :=
  match s.index? c.field with
  | none => .error (.internal (.unknownConditionField c.field))
  | some i => (c.operand.literals.mapM (s.fields.get i).literal).map fun vs => ⟨i, c.operator, vs⟩

/-- Whether a value passes a filter. Only `among` looks past the first operand. -/
def accepts (f : Filter) (v : Value) : Bool :=
  match f.operator with
  | .among => f.operands.any fun w => v.relate? w == some .eq
  | op =>
    match f.operands with
    | [] => false
    | w :: _ => (v.relate? w).any op.accepts

/-- Whether a row passes a filter. -/
def accepted (f : Filter) (r : Record) : Except Failure Bool :=
  match r.values[f.index]? with
  | some v => .ok (f.accepts v)
  | none => .error (.crash (.missingValue f.index))

/-- Whether a row passes all of some filters; after the first one it does not pass, no other is
looked at. -/
def allAccepted : List Filter → Record → Except Failure Bool
  | [], _ => .ok true
  | f :: rest, r => do
    if ← f.accepted r then allAccepted rest r else return false

/-- The rows that pass all of some filters. -/
def keep (filters : List Filter) : List Record → Except Failure (List Record)
  | [] => .ok []
  | r :: rest => do
    let passes ← allAccepted filters r
    let kept ← keep filters rest
    return if passes then r :: kept else kept

end Filter

end Registrar
