import Registrar.Descriptor.Check
import Registrar.Proofs.WholeFloat
import Registrar.Store.Table

/-!
# Keys of one kind

A key is a text or a whole number. Keys of one kind are the same only if they are equal; between
the two sorts of numbers `sameKey` goes by their floats, which is how a store looks for a number
that it may assign.

* `sameKey_iff_eq`: among keys of one kind, the same key is an equal one.
* `exists_coerce?_assigned`: an assigned number fits the key field, and the key made of it is the
  same as the number.
-/

namespace Registrar

/-! ## The same key -/

namespace Value

theorem sameKey_string (a b : String) : sameKey (.string a) (.string b) = true ↔ a = b := by
  have beq : (Value.string a == Value.string b) = (a == b) := by
    show Value.beq _ _ = _
    rw [Value.beq]
  simp only [sameKey, beq, compare?, Bool.or_eq_true, beq_iff_eq, Option.some.injEq,
    Std.LawfulEqOrd.compare_eq_iff_eq, or_self]

theorem sameKey_int (a b : Int64) : sameKey (.int a) (.int b) = true ↔ a = b := by
  have beq : (Value.int a == Value.int b) = (a == b) := by
    show Value.beq _ _ = _
    rw [Value.beq]
  simp only [sameKey, beq, compare?, Bool.or_eq_true, beq_iff_eq, Option.some.injEq,
    Std.LawfulEqOrd.compare_eq_iff_eq, or_self]

theorem sameKey_uint (a b : UInt64) : sameKey (.uint a) (.uint b) = true ↔ a = b := by
  have beq : (Value.uint a == Value.uint b) = (a == b) := by
    show Value.beq _ _ = _
    rw [Value.beq]
  simp only [sameKey, beq, compare?, Bool.or_eq_true, beq_iff_eq, Option.some.injEq,
    Std.LawfulEqOrd.compare_eq_iff_eq, or_self]

/-- A signed and an unsigned number of one value are the same key. -/
theorem sameKey_uint_int {a : UInt64} {b : Int64} (h : b.toInt = a.toNat) :
    sameKey (.uint a) (.int b) = true := by
  have compared : compare? (.uint a) (.int b) = some .eq := by
    show compareFloats (Float.ofNat a.toNat) (Float.ofInt b.toInt) = some .eq
    rw [h]
    exact compareFloats_self (isFinite_ofNat a.toNat_lt)
  unfold sameKey
  rw [compared]
  simp

/-- Among keys of one kind, the same key is an equal one. -/
theorem sameKey_iff_eq {k : Kind} (hk : Descriptor.isKeyKind k = true) {v w : Value}
    (hv : v.HasKind k) (hw : w.HasKind k) : v.sameKey w = true ↔ v = w := by
  cases k with
  | string =>
    cases v <;> simp only [HasKind] at hv
    cases w <;> simp only [HasKind] at hw
    rw [sameKey_string, Value.string.injEq]
  | int =>
    cases v <;> simp only [HasKind] at hv
    cases w <;> simp only [HasKind] at hw
    rw [sameKey_int, Value.int.injEq]
  | uint =>
    cases v <;> simp only [HasKind] at hv
    cases w <;> simp only [HasKind] at hw
    rw [sameKey_uint, Value.uint.injEq]
  | _ => simp [Descriptor.isKeyKind] at hk

/-- A key is the same as itself. -/
theorem sameKey_self {k : Kind} (hk : Descriptor.isKeyKind k = true) {v : Value}
    (hv : v.HasKind k) : v.sameKey v = true :=
  (sameKey_iff_eq hk hv hv).mpr rfl

end Value

/-! ## Assigned keys -/

namespace Table

/-- **An assigned number fits the key field**, and the key made of it is the same as the number. -/
theorem exists_coerce?_assigned {k : Kind} (hk : Descriptor.isKeyKind k = true) {n : Nat}
    (hn : n ≤ Decimal.maxInt64) :
    ∃ w, (assigned k n).coerce? k = some w ∧ w.HasKind k ∧ w.sameKey (assigned k n) = true := by
  have small : n < 2 ^ 63 := by unfold Decimal.maxInt64 at hn; omega
  have value : (Int64.ofNat n).toInt = n := Int64.toInt_ofNat_of_lt small
  cases k with
  | string =>
    refine ⟨.string (toString n), by simp [assigned, Value.coerce?], trivial, ?_⟩
    simpa [assigned] using (Value.sameKey_string _ _).mpr rfl
  | int =>
    refine ⟨.int (Int64.ofNat n), by simp [assigned, Value.coerce?], trivial, ?_⟩
    simpa [assigned] using (Value.sameKey_int _ _).mpr rfl
  | uint =>
    refine ⟨.uint (UInt64.ofNat n), by simp [assigned, Value.coerce?, value], trivial, ?_⟩
    have wide : (UInt64.ofNat n).toNat = n :=
      UInt64.toNat_ofNat_of_lt' (Nat.lt_trans small (by decide))
    simpa [assigned] using Value.sameKey_uint_int (value.trans (by rw [wide]))
  | _ => simp [Descriptor.isKeyKind] at hk

end Table

end Registrar
