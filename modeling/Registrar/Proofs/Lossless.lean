import Registrar.Proofs.RoundTrip

/-!
# What documents say of values

A document says less than a value: there is no float in it that is not finite, and of whole numbers
it says the number and not the sort. `Value.plain` is what is left of a value, part by part, and it
is what a document that the value was written as is read as. So nothing else is lost, and values
that are left alike are written alike.

* `Value.ofJson_toJson`: what is written is read as what is left of it.
* `Value.whole?_plain`: no number changes.
* **`Value.converts_without_loss`**: documents and values, both ways.
-/

namespace Registrar.Value

mutual

/-- What is left of a value in a document: a float that is not finite becomes null, and an unsigned
number that fits a signed one becomes that. -/
def plain : Value → Value
  | .null => .null
  | .bool b => .bool b
  | .int n => .int n
  | .uint n => if n.toNat < 2 ^ 63 then .int (Int64.ofInt n.toNat) else .uint n
  | .float x => if x.isFinite then .float x else .null
  | .string s => .string s
  | .seq items => .seq (plainItems items)
  | .map entries => .map (plainEntries entries)

/-- What is left of items. -/
def plainItems : List Value → List Value
  | [] => []
  | v :: rest => plain v :: plainItems rest

/-- What is left of entries, each under its key. -/
def plainEntries : List (String × Value) → List (String × Value)
  | [] => []
  | (k, v) :: rest => (k, plain v) :: plainEntries rest

end

/-! ## Numbers -/

theorem ofJson_uint (n : UInt64) : ofJson (toJson (.uint n)) = plain (.uint n) := by
  rw [toJson, ofJson, ofNumber, plain]
  by_cases small : n.toNat < 2 ^ 63
  · have bound : n.toNat ≤ Decimal.maxInt64 := by
      unfold Decimal.maxInt64
      omega
    rw [if_pos bound, if_pos small]
    rfl
  · have bound : ¬ n.toNat ≤ Decimal.maxInt64 := by
      unfold Decimal.maxInt64
      omega
    rw [if_neg bound, if_neg small]

/-- A float that is not finite is written as null. -/
theorem toJson_float {x : Float} (h : x.isFinite = false) : toJson (.float x) = .null := by
  have none : Number.ofFloat? x = none := by
    rw [Number.ofFloat?, dif_neg (by simp [h])]
  rw [toJson, none]

/-- **No number changes**: a signed one that stands for an unsigned one is of the same number. -/
theorem whole?_plain (v : Value) : v.plain.whole? = v.whole? := by
  cases v with
  | uint n =>
    rw [plain]
    split
    · rename_i small
      have same : (Int64.ofInt n.toNat).toInt = n.toNat :=
        Int64.toInt_ofInt_of_le (by omega) (by omega)
      rw [whole?, whole?, same]
    · rfl
  | float x =>
    rw [plain]
    split <;> rfl
  | _ => rw [plain] <;> rfl

/-! ## Values -/

mutual

/-- **What is written is read** as what is left of it. -/
theorem ofJson_toJson : ∀ v : Value, ofJson v.toJson = v.plain
  | .null | .bool _ | .string _ => rfl
  | .int n => ofJson_int n
  | .uint n => ofJson_uint n
  | .float x => by
    rw [plain]
    split
    · rename_i finite
      exact ofJson_float finite
    · rename_i infinite
      rw [toJson_float (by simpa using infinite), ofJson]
  | .seq items => by rw [toJson, ofJson, plain, ofItems_toItems items]
  | .map entries => by rw [toJson, ofJson, plain, ofMembers_toMembers entries]

theorem ofItems_toItems : ∀ items : List Value, ofItems (toItems items) = plainItems items
  | [] => rfl
  | v :: rest => by rw [toItems, ofItems, plainItems, ofJson_toJson v, ofItems_toItems rest]

theorem ofMembers_toMembers : ∀ entries : List (String × Value),
    ofMembers (toMembers entries) = plainEntries entries
  | [] => rfl
  | (k, v) :: rest => by
    rw [toMembers, ofMembers, plainEntries, ofJson_toJson v, ofMembers_toMembers rest]

end

/-- What is left of a value is written as the value is. -/
theorem toJson_plain (v : Value) : v.plain.toJson = v.toJson := by
  rw [← ofJson_toJson, toJson_ofJson]

/-- Values are written alike iff the same is left of them. -/
theorem toJson_eq_iff {v w : Value} : v.toJson = w.toJson ↔ v.plain = w.plain := by
  constructor
  · intro same
    rw [← ofJson_toJson, same, ofJson_toJson]
  · intro same
    rw [← toJson_plain, same, toJson_plain]

/-- **Converting loses nothing.** A document is written as it was read. A value is read as it was
written, at any depth, but for floats that are not finite, which become null, and for unsigned
numbers that fit signed ones, which become those; the number stays the same. Values that differ in
nothing else are written alike, and no others are. -/
theorem converts_without_loss :
    (∀ j : Json, (ofJson j).toJson = j) ∧
    (∀ v : Value, ofJson v.toJson = v.plain ∧ v.plain.whole? = v.whole?) ∧
    ∀ v w : Value, v.toJson = w.toJson ↔ v.plain = w.plain :=
  ⟨toJson_ofJson, fun v => ⟨ofJson_toJson v, whole?_plain v⟩, fun _ _ => toJson_eq_iff⟩

example : plain (.map [("a", .seq [.uint 7, .uint 9223372036854775808])]) =
    .map [("a", .seq [.int 7, .uint 9223372036854775808])] := by
  cbv

end Registrar.Value
