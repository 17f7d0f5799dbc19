import Registrar.Entries

/-!
# JSON documents

A document holds numbers of three sorts: whole numbers that fit 64 bits, with a minus sign or
without, and finite floats (`Number`). The sorts do not overlap: a negative number is never held
as a non-negative one, and a float is never infinite. Objects keep their members in ascending key
order.
-/

namespace Registrar

/-- A number of a document. -/
inductive Number where
  /-- A whole number from zero to the greatest of 64 bits. -/
  | nat (n : UInt64)
  /-- A whole number below zero. -/
  | neg (n : Int64) (below : n < 0)
  /-- A finite floating-point number. -/
  | float (x : Float) (finite : x.isFinite = true)

namespace Number

/-- A signed 64-bit number. -/
def ofInt64 (n : Int64) : Number :=
  if h : n < 0 then .neg n h else .nat n.toUInt64

/-- A float, if it is finite. -/
def ofFloat? (x : Float) : Option Number :=
  if h : x.isFinite = true then some (.float x h) else none

end Number

/-- A JSON document. -/
inductive Json where
  | null
  | bool (b : Bool)
  | number (n : Number)
  | string (s : String)
  | array (items : List Json)
  | object (members : List (String × Json))

instance : Inhabited Json := ⟨.null⟩

namespace Json

/-- A whole number. -/
def nat (n : Nat) : Json := .number (.nat (UInt64.ofNat n))

/-- The member of an object under `key`. -/
def get? : Json → String → Option Json
  | .object members, key => Entries.get? members key
  | _, _ => none

/-- The object with the given members; of two with one key the later stays. -/
def ofPairs (pairs : List (String × Json)) : Json := .object (Entries.ofPairs pairs)

end Json

end Registrar
