import Registrar.Value.Kind
import Registrar.Entries
import Registrar.Decimal.Whole

/-!
# Values

A value is what a field of a record holds, or what a rule looks at. Numbers come in three sorts
that are never equal to one another, but compare and convert: `coerce?` conforms a value to a
kind, widening whole numbers where nothing is lost, and refuses what does not fit.

* `zero k` is the value a field of kind `k` starts from; `isZero` also holds of `null` and of a
  mapping whose entries are all zero.
* `beq` is equality as rules and keys see it: part by part, floats as numbers, so that `0.0`
  equals `-0.0` and a NaN equals nothing.

See section 11 of the specification.

Out of scope: the making of values from those of a host.
-/

namespace Registrar

/-- A dynamically typed value. -/
inductive Value where
  | null
  | bool (b : Bool)
  | int (n : Int64)
  | uint (n : UInt64)
  | float (x : Float)
  | string (s : String)
  | seq (items : List Value)
  /-- A mapping, its keys ascending. -/
  | map (entries : List (String × Value))

instance : Inhabited Value := ⟨.null⟩

namespace Value

/-- What a field of kind `k` starts from. -/
def zero : Kind → Value
  | .string => .string ""
  | .int => .int 0
  | .uint => .uint 0
  | .float => .float 0
  | .bool => .bool false
  | .sequence => .seq []
  | .struct => .map []

mutual

/-- Whether a value counts as absent. -/
def isZero : Value → Bool
  | .null => true
  | .bool b => !b
  | .int n => n == 0
  | .uint n => n == 0
  | .float x => x == 0
  | .string s => s.isEmpty
  | .seq items => items.isEmpty
  | .map entries => allZero entries

/-- Whether every entry counts as absent. -/
def allZero : List (String × Value) → Bool
  | [] => true
  | (_, v) :: rest => isZero v && allZero rest

end

mutual

/-- Equality part by part, floats as numbers. -/
def beq : Value → Value → Bool
  | .null, .null => true
  | .bool a, .bool b => a == b
  | .int a, .int b => a == b
  | .uint a, .uint b => a == b
  | .float a, .float b => a == b
  | .string a, .string b => a == b
  | .seq a, .seq b => beqItems a b
  | .map a, .map b => beqEntries a b
  | _, _ => false

/-- Equality of sequences, item by item. -/
def beqItems : List Value → List Value → Bool
  | [], [] => true
  | a :: as, b :: bs => beq a b && beqItems as bs
  | _, _ => false

/-- Equality of mappings, entry by entry. -/
def beqEntries : List (String × Value) → List (String × Value) → Bool
  | [], [] => true
  | (j, a) :: as, (k, b) :: bs => j == k && beq a b && beqEntries as bs
  | _, _ => false

end

instance : BEq Value := ⟨beq⟩

/-- A number as a float, rounded to the nearest one. -/
def toFloat? : Value → Option Float
  | .int n => some (Float.ofInt n.toInt)
  | .uint n => some (Float.ofNat n.toNat)
  | .float x => some x
  | _ => none

/-- The text of a text value. -/
def text? : Value → Option String
  | .string s => some s
  | _ => none

/-- How many characters, items or entries a value has. -/
def length? : Value → Option Nat
  | .string s => some s.length
  | .seq items => some items.length
  | .map entries => some entries.length
  | _ => none

/-- The name of a value's sort. -/
def sort : Value → String
  | .null => "null"
  | .bool _ => "bool"
  | .int _ => "int"
  | .uint _ => "uint"
  | .float _ => "float"
  | .string _ => "string"
  | .seq _ => "sequence"
  | .map _ => "struct"

/-- Whether a value is of the sort that a field of kind `k` holds. -/
def HasKind : Value → Kind → Prop
  | .string _, .string => True
  | .int _, .int => True
  | .uint _, .uint => True
  | .float _, .float => True
  | .bool _, .bool => True
  | .seq _, .sequence => True
  | .map _, .struct => True
  | _, _ => False

instance (v : Value) (k : Kind) : Decidable (v.HasKind k) := by
  cases v <;> cases k <;> simp only [HasKind] <;> infer_instance

/-- Conform a value to a kind. Null becomes the kind's zero; a whole number changes its sort where
the new one can hold it, and becomes the nearest float; all else must be of the kind already. -/
def coerce? (k : Kind) (v : Value) : Option Value :=
  match k, v with
  | k, .null => some (zero k)
  | .string, .string s => some (.string s)
  | .bool, .bool b => some (.bool b)
  | .int, .int n => some (.int n)
  | .int, .uint n => if n.toNat ≤ Decimal.maxInt64 then some (.int (Int64.ofNat n.toNat)) else none
  | .uint, .uint n => some (.uint n)
  | .uint, .int n => if 0 ≤ n.toInt then some (.uint (UInt64.ofNat n.toInt.toNat)) else none
  | .float, .float x => some (.float x)
  | .float, .int n => some (.float (Float.ofInt n.toInt))
  | .float, .uint n => some (.float (Float.ofNat n.toNat))
  | .sequence, .seq items => some (.seq items)
  | .struct, .map entries => some (.map entries)
  | _, _ => none

/-! ## Lemmas -/

theorem hasKind_zero (k : Kind) : (zero k).HasKind k := by cases k <;> trivial

/-- What `coerce?` answers is of the kind asked for. -/
theorem hasKind_of_coerce? {k : Kind} {v w : Value} (h : coerce? k v = some w) : w.HasKind k := by
  cases v <;> cases k <;> grind [coerce?, HasKind, zero]

/-- A value of the right kind is kept as it is. -/
theorem coerce?_of_hasKind {k : Kind} {v : Value} (h : v.HasKind k) : coerce? k v = some v := by
  cases v <;> cases k <;> grind [coerce?, HasKind]

end Value

end Registrar
