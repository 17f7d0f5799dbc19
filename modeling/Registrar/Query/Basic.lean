import Registrar.Sorting

/-!
# Queries

A query asks a resource for the rows that meet all its conditions, in an order, and of these for a
window. Literals stand in it as they were written; whoever runs the query reads them by the kind of
the field. Conditions have an order of their own (`Condition.compare`), in which queries list them.

See sections 3 and 14 of the specification.
-/

namespace Registrar

/-- How a field is compared with a literal. -/
inductive Operator where
  | eq
  | lt
  | lte
  | gt
  | gte
  /-- Equal to one of some literals. -/
  | among
  deriving DecidableEq, Repr

namespace Operator

/-- The place of an operator among the conditions on one field. -/
def rank : Operator → Nat
  | .eq => 0
  | .lt => 1
  | .lte => 2
  | .gt => 3
  | .gte => 4
  | .among => 5

/-- The operator that a parameter's key names in front of the field. Equality is named by the field
alone. -/
def ofPrefix? : String → Option Operator
  | "lt" => some .lt
  | "lte" => some .lte
  | "gt" => some .gt
  | "gte" => some .gte
  | "in" => some .among
  | _ => none

end Operator

/-- The literals of a condition. -/
inductive Operand where
  | single (literal : String)
  | many (literals : List String)
  deriving DecidableEq, Repr

namespace Operand

/-- The literals in an operand. -/
def literals : Operand → List String
  | .single literal => [literal]
  | .many literals => literals

/-- Single literals come before lists of them. -/
def rank : Operand → Nat
  | .single _ => 0
  | .many _ => 1

end Operand

/-- What a row must meet. -/
structure Condition where
  /-- The name of the field. -/
  field : String
  operator : Operator
  operand : Operand
  deriving DecidableEq, Repr

namespace Condition

/-- The order of conditions: by field, by operator, by operand. -/
def compare : Condition → Condition → Ordering :=
  compareLex (compareOn (·.field)) <| compareLex (compareOn (·.operator.rank)) <|
    compareLex (compareOn (·.operand.rank)) (compareOn (·.operand.literals))

/-- Conditions in order. -/
def sort (conditions : List Condition) : List Condition :=
  Sorting.sort (fun a b => compare a b == .lt) conditions

end Condition

/-- Which way an order goes. -/
inductive Direction where
  | ascending
  | descending
  deriving DecidableEq, Repr

/-- The order that rows are asked for in. -/
structure Order where
  /-- The name of the field. -/
  field : String
  direction : Direction
  deriving DecidableEq, Repr

/-- A request for rows. -/
structure Query where
  conditions : List Condition
  order : Option Order
  /-- How many rows at most. -/
  limit : Nat
  /-- How many rows are passed over first. -/
  offset : Nat
  /-- The document keys to show; every one when not given. -/
  fields : Option (List String)
  deriving DecidableEq, Repr

namespace Query

/-- How many rows are given when no limit is asked for. -/
def defaultLimit : Nat := 1000

/-- The query without any demand. -/
def blank : Query := ⟨[], none, defaultLimit, 0, none⟩

end Query

end Registrar
