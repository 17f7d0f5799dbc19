import Mathlib
import Registrar.Value.Order

/-!
# Whole numbers as floats

A whole number becomes a float by rounding, so two numbers may become one float. But the whole
numbers of 64 bits are far from the largest float, so the float of one is finite, and equals itself.
The bounds are generous: rounding raises an exponent by at most twice as many bits as the mantissa
has (`below_roundWithAccuracy`), which leaves plenty of room.

* `isFinite_ofNat`, `isFinite_ofInt`: the float of a number of 64 bits is finite.
* `compareFloats_self`: a finite float equals itself.
-/

namespace Registrar.Value

open Float.Model

/-- A float that is zero, or finite with an exponent of at most `b`. -/
def Below (b : Int) : UnpackedFloat → Prop
  | .zero _ => True
  | .finite _ _ e _ => e ≤ b
  | _ => False

theorem Below.isFinite {b : Int} {u : UnpackedFloat} (h : Below b u) : u.isFinite = true := by
  cases u with
  | zero | finite => rfl
  | infinity | notANumber => exact h.elim

theorem Below.neg {b : Int} {u : UnpackedFloat} (h : Below b u) : Below b u.neg := by
  cases u <;> exact h

/-! ## Rounding -/

section Rounding

open UnpackedFloat

theorem log2_le_of_lt {m k : Nat} (h : m < 2 ^ (k + 1)) : m.log2 ≤ k := by
  by_cases hm : m = 0
  · simp [hm]
  · exact Nat.lt_succ_iff.mp ((Nat.log2_lt hm).mpr h)

theorem mantissa_shiftRight_le (em : ExtendedMantissa) (k : Nat) :
    (em >>> k).mantissa ≤ em.mantissa := by
  induction k with
  | zero => exact Nat.le_refl _
  | succ k ih => exact Nat.le_trans (Nat.div_le_self _ _) ih

theorem roundedMantissa_le (em : ExtendedMantissa) : em.roundedMantissa ≤ em.mantissa + 1 := by
  obtain ⟨m, r, s⟩ := em
  cases r <;> cases s <;>
    simp [ExtendedMantissa.roundedMantissa, ExtendedMantissa.accuracy, Accuracy.roundToNearestEven]
  omega

/-- Shifting drops bits, and raises the exponent by at most as many as there were. -/
theorem shift_le {m k : Nat} {e : Int} (a : Accuracy) (hm : m.log2 ≤ k) :
    (shiftToTargetExponent .binary64 m e a).1.mantissa ≤ m ∧
      (shiftToTargetExponent .binary64 m e a).2 ≤ max e (-1074) + k := by
  constructor
  · refine Nat.le_trans (mantissa_shiftRight_le _ _) (Nat.le_of_eq ?_)
    rcases a with _ | o
    · rfl
    · cases o <;> rfl
  · have target : Format.binary64.targetExponent (totalExponent m e) =
        max ((m.log2 : Int) + 1 + e - 53) (-1074) := rfl
    show e + ((Format.binary64.targetExponent (totalExponent m e) - e).toNat : Int) ≤ _
    rw [target]
    omega

/-- **Rounding keeps an exponent in bounds.** -/
theorem below_roundWithAccuracy {m k : Nat} {e b : Int} (s : Sign) (a : Accuracy)
    (hm : m + 1 < 2 ^ (k + 1)) (hb : max e (-1074) + 2 * k ≤ b) :
    Below b (roundWithAccuracy .binary64 s m e a) := by
  obtain ⟨mantissa, exponent⟩ := shift_le (e := e) a (log2_le_of_lt (by omega : m < 2 ^ (k + 1)))
  unfold roundWithAccuracy
  generalize shiftToTargetExponent .binary64 m e a = first at mantissa exponent ⊢
  have rounded : first.1.roundedMantissa < 2 ^ (k + 1) := by
    have := roundedMantissa_le first.1
    omega
  obtain ⟨-, exponent'⟩ := shift_le (e := first.2) .exact (log2_le_of_lt rounded)
  generalize hsecond : shiftToTargetExponent .binary64 first.1.roundedMantissa first.2 .exact =
    second at exponent'
  simp only [hsecond]
  split
  · trivial
  · show second.2 ≤ b
    omega

end Rounding

/-! ## Packing -/

theorem below_unpack {bits : BitVec Format.binary64.numBits} {b : Int}
    (normal : UnpackedFloat.unpackExponent bits ≠ -1#_) (hb : -1074 ≤ b)
    (he : ((UnpackedFloat.unpackExponent bits).toNat : Int) - 1075 ≤ b) :
    Below b (UnpackedFloat.unpack .binary64 bits) := by
  unfold UnpackedFloat.unpack
  simp only [if_neg normal]
  split
  · rename_i zero
    split
    · trivial
    · rw [zero]
      exact hb
  · exact he

/-- What is finite when it is unpacked has an exponent that fits. -/
theorem below_of_isFinite {bits : BitVec Format.binary64.numBits}
    (h : (UnpackedFloat.unpack .binary64 bits).isFinite = true) :
    Below 971 (UnpackedFloat.unpack .binary64 bits) := by
  have normal : UnpackedFloat.unpackExponent bits ≠ -1#_ := by
    intro largest
    unfold UnpackedFloat.unpack at h
    simp only [if_pos largest] at h
    split at h <;> exact absurd h Bool.false_ne_true
  have ne : (UnpackedFloat.unpackExponent bits).toNat ≠ 2 ^ 11 - 1 := by
    intro same
    refine normal (BitVec.eq_of_toNat_eq ?_)
    rw [same, BitVec.neg_one_eq_allOnes, BitVec.toNat_allOnes]
  have lt : (UnpackedFloat.unpackExponent bits).toNat < 2 ^ 11 :=
    (UnpackedFloat.unpackExponent bits).isLt
  exact below_unpack normal (by omega) (by omega)

/-- A mantissa has at most 53 bits after unpacking. -/
theorem mantissa_lt_of_unpack {bits : BitVec Format.binary64.numBits} {s : UnpackedFloat.Sign}
    {m : Nat} {e : Int} {hm : 0 < m}
    (h : UnpackedFloat.unpack .binary64 bits = .finite s m e hm) : m < 2 ^ 53 := by
  have bound : (UnpackedFloat.unpackMantissa bits).toNat < 2 ^ 52 :=
    (UnpackedFloat.unpackMantissa bits).isLt
  have bound' : (1#1 ++ UnpackedFloat.unpackMantissa bits).toNat < 2 ^ (1 + 52) :=
    (1#1 ++ UnpackedFloat.unpackMantissa bits).isLt
  unfold UnpackedFloat.unpack at h
  simp only at h
  split at h
  · split at h <;> simp at h
  · split at h
    · split at h
      · simp at h
      · injection h
        omega
    · injection h
      omega

theorem below_unpack_packComponents {s : UnpackedFloat.Sign} {x : Nat} {b : Int}
    {mantissa : BitVec Format.binary64.mantissaBitsWithoutImplicit} (fits : x + 1 < 2 ^ 11)
    (low : -1074 ≤ b) (hx : (x : Int) - 1075 ≤ b) :
    Below b (UnpackedFloat.unpack .binary64
      (UnpackedFloat.packComponents .binary64 s (BitVec.ofNat _ x) mantissa)) := by
  have kept : (BitVec.ofNat 11 x).toNat = x := by
    rw [BitVec.toNat_ofNat, Nat.mod_eq_of_lt (by omega)]
  refine below_unpack ?_ low ?_ <;> rw [UnpackedFloat.unpackExponent_packComponents]
  · intro largest
    have same : (BitVec.ofNat 11 x).toNat = 2 ^ 11 - 1 := by
      rw [largest, BitVec.neg_one_eq_allOnes, BitVec.toNat_allOnes]
    omega
  · show ((BitVec.ofNat 11 x).toNat : Int) - 1075 ≤ b
    rw [kept]
    exact hx

/-- Where the exponent fits, a mantissa of full length is packed with it, any other without. -/
theorem pack_of_le {s : UnpackedFloat.Sign} {m : Nat} {e : Int} {hm : 0 < m} (he : e ≤ 971) :
    UnpackedFloat.pack .binary64 (.finite s m e hm) = UnpackedFloat.packComponents .binary64 s
      (BitVec.ofNat _ (if m.log2 + 1 = 53 then (e + 1075).toNat else 0)) (BitVec.ofNat _ m) := by
  have biased : e + (1023 : Nat) + (52 : Nat) = e + 1075 := by omega
  have fits : ¬ 2 ^ 11 ≤ (e + 1075).toNat + 1 := by omega
  show (if 2 ^ 11 ≤ (e + (1023 : Nat) + (52 : Nat)).toNat + 1 then _
    else if m.log2 + 1 = 53 then UnpackedFloat.packComponents .binary64 s
      (BitVec.ofNat 11 (e + (1023 : Nat) + (52 : Nat)).toNat) (BitVec.ofNat 52 m) else _) = _
  rw [biased, if_neg fits]
  split <;> rfl

/-- **Packing keeps what fits.** -/
theorem below_unpack_pack {b : Int} {u : UnpackedFloat} (h : Below b u) (low : -1074 ≤ b)
    (high : b ≤ 971) :
    Below b (UnpackedFloat.unpack .binary64 (UnpackedFloat.pack .binary64 u)) := by
  cases u with
  | infinity | notANumber => exact h.elim
  | zero s => exact below_unpack_packComponents (x := 0) (by decide) low (by omega)
  | finite s m e hm =>
    have he : e ≤ b := h
    rw [pack_of_le (Int.le_trans he high)]
    split
    · exact below_unpack_packComponents (by omega) low (by omega)
    · exact below_unpack_packComponents (by decide) low (by omega)

/-! ## Whole numbers of 64 bits -/

section Whole

open UnpackedFloat

variable {n : Nat}

/-- A whole number is written with as many bits as a mantissa has, and rounded. -/
theorem below_round (hn : n < 2 ^ 64) (s : Sign) :
    Below 300 (UnpackedFloat.round .binary64 s n 0) := by
  have target : Format.binary64.targetExponent (totalExponent n 0) =
      max ((n.log2 : Int) + 1 + 0 - 53) (-1074) := rfl
  obtain ⟨k, hk, rounds⟩ : ∃ k : Nat, k ≤ 52 ∧ UnpackedFloat.round .binary64 s n 0 =
      roundWithAccuracy .binary64 s (n <<< k) (0 - (k : Int)) .exact := by
    refine ⟨(0 - Format.binary64.targetExponent (totalExponent n 0)).toNat, ?_, rfl⟩
    rw [target]
    omega
  have mantissa : n <<< k < 2 ^ 116 := by
    rw [Nat.shiftLeft_eq]
    calc n * 2 ^ k < 2 ^ 64 * 2 ^ 52 :=
          Nat.mul_lt_mul_of_lt_of_le hn (Nat.pow_le_pow_right (by decide) hk) (by decide)
      _ = 2 ^ 116 := by decide
  rw [rounds]
  exact below_roundWithAccuracy (k := 116) s .exact (by omega) (by omega)

theorem below_unpacked_ofNat (hn : n < 2 ^ 64) : Below 300 (UnpackedFloat.ofNat .binary64 n) := by
  unfold UnpackedFloat.ofNat UnpackedFloat.ofInt UnpackedFloat.normalize
  split
  · rename_i less
    exact absurd (Int.compare_eq_lt.mp less) (by omega)
  · trivial
  · exact below_round hn .positive

/-- A float of few bits times a small one is far from the largest. -/
theorem below_mul {u : UnpackedFloat} {s : Sign} {m : Nat} {e : Int} {hm : 0 < m}
    (hu : Below 300 u) (bits : ∀ s m e hm, u = .finite s m e hm → m < 2 ^ 53) (he : e ≤ 0)
    (mantissa : m ≤ 2 ^ 52) : Below 971 (mul .binary64 u (.finite s m e hm)) := by
  cases u with
  | infinity | notANumber => exact hu.elim
  | zero => trivial
  | finite t n f hn =>
    have exponent : f ≤ 300 := hu
    have product : n * m < 2 ^ 53 * 2 ^ 52 :=
      Nat.mul_lt_mul_of_lt_of_le (bits t n f hn rfl) mantissa (by decide)
    exact below_roundWithAccuracy (k := 105) _ .exact (by omega) (by omega)

theorem below_unpacked_ofScientific (hn : n < 2 ^ 64) :
    Below 971 (UnpackedFloat.ofScientific .binary64 n 0) := by
  have bits : Format.binary64.mantissaBits = 53 := rfl
  unfold UnpackedFloat.ofScientific
  split
  · trivial
  · have room : ¬ (0 : Int) < -(2 ^ Format.binary64.exponentBits + (n.log2 : Int)) := by
      show ¬ (0 : Int) < -(2 ^ 11 + (n.log2 : Int))
      omega
    rw [if_neg (by decide), if_neg room, if_pos (Int.le_refl 0), UnpackedFloat.mul]
    refine below_roundWithAccuracy (k := 117) _ .exact ?_ ?_
    · rw [bits, Nat.shiftLeft_eq]
      show n * 2 ^ 53 * 1 + 1 < 2 ^ (117 + 1)
      omega
    · rw [bits]
      decide

/-- **The float of a natural number of 64 bits is finite.** -/
theorem isFinite_ofNat (hn : n < 2 ^ 64) : (Float.ofNat n).isFinite = true := by
  change (Float.ofScientific n false 0).isFinite = true
  unfold Float.ofScientific
  split
  · have one : Float.exactlyRepresentablePowersOfTen[0].toModel.unpack =
        .finite .positive (2 ^ 52) (-52) (by decide) := rfl
    have whole : Below 300 (UnpackedFloat.ofNat .binary64 n.toUInt64.toNat) :=
      below_unpacked_ofNat n.toUInt64.toNat_lt
    have factor := below_unpack_pack whole (by decide) (by decide)
    refine (below_unpack_pack (b := 971) ?_ (by decide) (by decide)).isFinite
    rw [one]
    exact below_mul factor (fun s m e hm h => mantissa_lt_of_unpack h) (by decide) (by decide)
  · exact (below_unpack_pack (below_unpacked_ofScientific hn) (by decide) (by decide)).isFinite

theorem isFinite_neg {x : Float} (h : x.isFinite = true) : x.neg.isFinite = true :=
  (below_unpack_pack (below_of_isFinite h).neg (by decide) (by decide)).isFinite

theorem isFinite_ofInt {z : Int} (hz : z.natAbs < 2 ^ 64) : (Float.ofInt z).isFinite = true := by
  cases z with
  | ofNat n => exact isFinite_ofNat hz
  | negSucc n => exact isFinite_neg (isFinite_ofNat hz)

end Whole

/-! ## Comparing floats -/

theorem Below.compare_self {b : Int} {u : UnpackedFloat} (h : Below b u) :
    u.compare u = some .eq := by
  cases u with
  | infinity | notANumber => exact h.elim
  | zero s => rfl
  | finite s m e hm => cases s <;> simp [UnpackedFloat.compare]

section Finite

variable {x : Float}

theorem compare_unpack_self (h : x.isFinite = true) :
    x.toModel.unpack.compare x.toModel.unpack = some .eq :=
  (below_of_isFinite h).compare_self

/-- A finite float equals itself. -/
theorem beq_self (h : x.isFinite = true) : (x == x) = true := by
  show x.toModel.unpack.beq x.toModel.unpack = true
  rw [UnpackedFloat.beq, compare_unpack_self h]
  rfl

theorem compareFloats_self (h : x.isFinite = true) : compareFloats x x = some .eq := by
  have not_lt : ¬ x < x := by
    show ¬ (decide (x.toModel.unpack.lt x.toModel.unpack = true)) = true
    rw [UnpackedFloat.lt, compare_unpack_self h]
    decide
  unfold compareFloats
  rw [if_neg not_lt, if_neg not_lt, if_pos (beq_self h)]

end Finite

end Registrar.Value
