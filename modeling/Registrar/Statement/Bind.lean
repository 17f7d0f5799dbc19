import Registrar.Failure

/-!
# Bound values

A statement carries its values apart from its text, each as one of the types a database knows. A
whole number is bound as a signed one, so an unsigned number that no signed one equals is refused;
sequences and mappings are bound as documents. `Bind.bytes` is the binary form of a bound value.

See section 15 of the specification.

Out of scope: the reading of rows that a database gives back.
-/

namespace Registrar

/-- A value as a statement carries it. -/
inductive Bind where
  | null
  | bool (b : Bool)
  | int (n : Int64)
  | float (x : Float)
  | text (s : String)
  | document (j : Json)

namespace Bind

/-- The bound form of a value. -/
def ofValue : Value → Except Failure Bind
  | .null => .ok .null
  | .bool b => .ok (.bool b)
  | .int n => .ok (.int n)
  | .uint n =>
    if n.toNat ≤ Decimal.maxInt64 then .ok (.int (Int64.ofNat n.toNat))
    else .error (.badRequest (.outOfRange n))
  | .float x => .ok (.float x)
  | .string s => .ok (.text s)
  | .seq items => .ok (.document (Value.toJson (.seq items)))
  | .map entries => .ok (.document (Value.toJson (.map entries)))

/-- The type that a bound value declares. -/
def typeName : Bind → String
  | .null | .text _ => "TEXT"
  | .bool _ => "BOOL"
  | .int _ => "INT8"
  | .float _ => "FLOAT8"
  | .document _ => "JSONB"

/-- Whether a bound value stands for no value. -/
def isNull : Bind → Bool
  | .null => true
  | _ => false

/-- The eight bytes of a word, the most significant first. -/
def wordBytes (w : UInt64) : List UInt8 :=
  ([56, 48, 40, 32, 24, 16, 8, 0] : List UInt64).map fun k => (w >>> k).toUInt8

/-- The binary form of a bound value. A document follows the number of its format's version. -/
def bytes : Bind → List UInt8
  | .null => []
  | .bool b => [if b then 1 else 0]
  | .int n => wordBytes n.toUInt64
  | .float x => wordBytes x.toBits
  | .text s => s.toUTF8.toList
  | .document j => 1 :: j.text.toUTF8.toList

end Bind

end Registrar
