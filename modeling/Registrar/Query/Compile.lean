import Registrar.Decimal.Whole
import Registrar.Query.Basic
import Registrar.Schema
import Registrar.Text.Blank
import Registrar.Text.Split

/-!
# Queries from parameters

The parameters of a request make a query. A key names a field, alone or after an operator and a
dash; four keys of their own ask for an order, a window and a choice of fields. Of parameters with
one key the first counts. Keys that name no persisted field are dropped, and numbers that cannot be
read give way to defaults; only an order that makes no sense is refused (`Query.Fault`).

See sections 4.1 and 14 of the specification.

Out of scope: the notes in a log of parameters that are dropped.
-/

namespace Registrar

namespace Query

/-- What is wrong with the order asked for. -/
inductive Fault where
  | invalidOrderFormat (value : String)
  | unknownOrderField (field : String)
  | invalidOrderDirection (direction : String)
  deriving DecidableEq, Repr

/-- The fault in words. -/
def Fault.message : Fault → String
  | .invalidOrderFormat value =>
    "q-order format invalid: '" ++ value ++ "' (expected asc-field or desc-field)"
  | .unknownOrderField field => "q-order field '" ++ field ++ "' isn't present in the resource"
  | .invalidOrderDirection direction =>
    "q-order ordering '" ++ direction ++ "' is invalid, must use asc or desc"

end Query

namespace Schema

/-- The name of the persisted field that a key names. -/
def filterable? (s : Schema) (key : String) : Option String :=
  match s.lookup? key with
  | some i => if (s.fields.get i).isPersisted then some (s.fields.get i).name else none
  | none => none

/-- The condition that a parameter asks for. -/
def condition? (s : Schema) (key value : String) : Option Condition :=
  match Text.split '-' key with
  | [field] => (s.filterable? field).map fun name => ⟨name, .eq, .single value⟩
  | [op, field] => do
    let operator ← Operator.ofPrefix? op
    let name ← s.filterable? field
    return ⟨name, operator,
      if operator = .among then .many (Text.split ',' value) else .single value⟩
  | _ => none

/-- The order that a value asks for: its form is looked at first, then the field, then the
direction. -/
def order (s : Schema) (value : String) : Except Query.Fault Order :=
  match Text.split '-' value with
  | [direction, field] =>
    match s.filterable? field with
    | none => .error (.unknownOrderField field)
    | some name =>
      match direction with
      | "asc" => .ok ⟨name, .ascending⟩
      | "desc" => .ok ⟨name, .descending⟩
      | _ => .error (.invalidOrderDirection direction)
  | _ => .error (.invalidOrderFormat value)

end Schema

namespace Query

/-- A count as written; the default if it cannot be read or is below zero. -/
def count (default : Nat) (value : String) : Nat :=
  match Decimal.int64? (Text.trim value) with
  | some n => if n < 0 then default else n.toInt.toNat
  | none => default

/-- The keys in a list with commas, trimmed, without the empty ones. -/
def keyList (value : String) : List String :=
  ((Text.split ',' value).map Text.trim).filter (!·.isEmpty)

/-- Take in one parameter. What names no persisted field is dropped. -/
def enter (s : Schema) (q : Query) (key value : String) : Except Fault Query :=
  match key with
  | "q-order" => (s.order value).map fun o => { q with order := some o }
  | "q-limit" => .ok { q with limit := count defaultLimit value }
  | "q-offset" => .ok { q with offset := count 0 value }
  | "q-fields" => .ok { q with fields := some (keyList value) }
  | _ =>
    match s.condition? key value with
    | some c => .ok { q with conditions := q.conditions ++ [c] }
    | none => .ok q

/-- Take in parameters one after the other; `seen` holds the keys met so far. A key that was met is
passed over, and an order that is refused ends the reading. -/
def scan (s : Schema) (seen : List String) (q : Query) : List (String × String) →
    Except Fault Query
  | [] => .ok q
  | (key, value) :: rest =>
    if seen.contains key then scan s seen q rest
    else do
      let q ← enter s q key value
      scan s (key :: seen) q rest

/-- The query that parameters ask for. -/
def compile (s : Schema) (params : List (String × String)) : Except Fault Query := do
  let q ← scan s [] blank params
  return { q with conditions := Condition.sort q.conditions }

end Query

end Registrar
