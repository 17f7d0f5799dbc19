import Registrar.Value.Basic
import Registrar.Json.Printer

/-!
# Values and documents

A value is written as a document (`toJson`) and read from one (`ofJson`). Both go part by part.
What a document cannot say is lost on the way out: a float that is not finite becomes `null`, and
a whole number keeps its value but not the sort it had.

See section 11 of the specification.
-/

namespace Registrar.Value

/-- The value of a number: signed where 64 bits with a sign can hold it, else unsigned. -/
def ofNumber : Number → Value
  | .nat n => if n.toNat ≤ Decimal.maxInt64 then .int (Int64.ofNat n.toNat) else .uint n
  | .neg n _ => .int n
  | .float x _ => .float x

mutual

/-- The value of a document. -/
def ofJson : Json → Value
  | .null => .null
  | .bool b => .bool b
  | .number n => ofNumber n
  | .string s => .string s
  | .array items => .seq (ofItems items)
  | .object members => .map (ofMembers members)

/-- The values of items. -/
def ofItems : List Json → List Value
  | [] => []
  | j :: rest => ofJson j :: ofItems rest

/-- The values of members. -/
def ofMembers : List (String × Json) → List (String × Value)
  | [] => []
  | (k, j) :: rest => (k, ofJson j) :: ofMembers rest

end

mutual

/-- A value as a document. -/
def toJson : Value → Json
  | .null => .null
  | .bool b => .bool b
  | .int n => .number (Number.ofInt64 n)
  | .uint n => .number (.nat n)
  | .float x => match Number.ofFloat? x with
    | some n => .number n
    | none => .null
  | .string s => .string s
  | .seq items => .array (toItems items)
  | .map entries => .object (toMembers entries)

/-- Items as documents. -/
def toItems : List Value → List Json
  | [] => []
  | v :: rest => toJson v :: toItems rest

/-- Entries as members. -/
def toMembers : List (String × Value) → List (String × Json)
  | [] => []
  | (k, v) :: rest => (k, toJson v) :: toMembers rest

end

/-- A value in words: a text as it is, anything else as a document. -/
def display : Value → String
  | .string s => s
  | v => Json.text v.toJson

end Registrar.Value
