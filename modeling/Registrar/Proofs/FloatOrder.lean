import Registrar.Proofs.Comparing
import Registrar.Proofs.WholeFloat

/-!
# The order of floats, and of all values of one kind

A float that is no NaN has a place on a line: infinities at the ends, zero of either sign in the
middle, and between them numbers by exponent and mantissa (`Floats.place`). Floats compare by their
places, so the relation that rows are sorted by is a strict weak order among values of any one kind,
as long as none of them is a NaN. A NaN is not comparable with anything, which leaves no such order.

* `Floats.lt_iff_place`: floats compare by their places.
* `Table.weak_before_of_hasKind`: values of one kind, none of them a NaN, are in a strict weak
  order.

Out of scope: which number a float stands for. Only the order is read off its parts.
-/

namespace Registrar

/-! ## Floats -/

namespace Floats

open Float.Model

/-- Where a float stands on one line with all the others, but for a NaN. -/
def place : UnpackedFloat → ℤ ×ₗ ℤ ×ₗ ℤ
  | .infinity .negative => toLex (-2, toLex (0, 0))
  | .finite .negative m e _ => toLex (-1, toLex (-e, -m))
  | .zero _ => toLex (0, toLex (0, 0))
  | .finite .positive m e _ => toLex (1, toLex (e, m))
  | .infinity .positive => toLex (2, toLex (0, 0))
  | .notANumber => toLex (0, toLex (0, 0))

theorem then_eq_lt_iff {e f : Int} {m n : Nat} :
    (compare e f).then (compare m n) = .lt ↔ e < f ∨ e = f ∧ m < n := by
  rw [Ordering.then_eq_lt, compare_lt_iff_lt, compare_eq_iff_eq, compare_lt_iff_lt]

theorem then_eq_gt_iff {e f : Int} {m n : Nat} :
    (compare e f).then (compare m n) = .gt ↔ f < e ∨ e = f ∧ n < m := by
  rw [Ordering.then_eq_gt, compare_gt_iff_gt, compare_eq_iff_eq, compare_gt_iff_gt]

theorem unpacked_lt_iff {u v : UnpackedFloat} (hu : u.isNaN = false) (hv : v.isNaN = false) :
    u.lt v = true ↔ place u < place v := by
  have apart : compare UnpackedFloat.Sign.negative .positive = .lt := rfl
  have apart' : compare UnpackedFloat.Sign.positive .negative = .gt := rfl
  unfold UnpackedFloat.lt
  rw [beq_iff_eq]
  cases u with
  | notANumber => exact absurd hu (by simp [UnpackedFloat.isNaN])
  | infinity s | zero s | finite s =>
    cases v with
    | notANumber => exact absurd hv (by simp [UnpackedFloat.isNaN])
    | infinity t | zero t | finite t =>
      -- the signs decide, and within one sign the exponents and the mantissas
      cases s <;> cases t <;>
        simp [UnpackedFloat.compare, apart, apart', place, Prod.Lex.toLex_lt_toLex, then_eq_lt_iff,
          then_eq_gt_iff]

variable {x y : Float}

/-- **Floats compare by their places.** -/
theorem lt_iff_place (hx : x.isNaN = false) (hy : y.isNaN = false) :
    x < y ↔ place x.toModel.unpack < place y.toModel.unpack := by
  rw [← unpacked_lt_iff hx hy]
  show decide (x.toModel.unpack.lt y.toModel.unpack = true) = true ↔ _
  exact decide_eq_true_iff

theorem weak_lt : Sorting.Weak (fun x y : Float => decide (x < y)) (·.isNaN = false) := by
  refine ⟨fun x y hx hy h => ?_, fun x y z hx hy hz h h' => ?_⟩
  · rw [decide_eq_true_iff, lt_iff_place hx hy] at h
    rw [decide_eq_false_iff_not, lt_iff_place hy hx]
    exact h.not_gt
  · rw [decide_eq_false_iff_not, lt_iff_place hx hy, not_lt] at h
    rw [decide_eq_false_iff_not, lt_iff_place hy hz, not_lt] at h'
    rw [decide_eq_false_iff_not, lt_iff_place hx hz]
    exact (h'.trans h).not_gt

/-- A finite float is no NaN. -/
theorem isNaN_of_isFinite (h : x.isFinite = true) : x.isNaN = false := by
  have finite : x.toModel.unpack.isFinite = true := h
  show x.toModel.unpack.isNaN = false
  cases hu : x.toModel.unpack with
  | notANumber => exact absurd (hu ▸ finite) (by simp [UnpackedFloat.isFinite])
  | infinity | zero | finite => rfl

end Floats

/-! ## Values -/

/-- Whether a value is a NaN. -/
def Value.isNaN : Value → Bool
  | .float x => x.isNaN
  | _ => false

namespace Table

variable {x y : Float} {a b : Value}

/-- Whether a float stands before another in an order. -/
def beforeFloat : Direction → Float → Float → Bool
  | .ascending, x, y => decide (x < y)
  | .descending, x, y => decide (y < x)

theorem before_float (d : Direction) (hx : x.isNaN = false) (hy : y.isNaN = false) :
    before d (.float x) (.float y) = beforeFloat d x y := by
  have asymm := Floats.weak_lt.asymm x y hx hy
  cases d with
  | ascending =>
    show (Value.compareFloats x y == some .lt) = decide (x < y)
    unfold Value.compareFloats
    by_cases h : x < y
    · simp [h]
    · by_cases h' : y < x
      · simp [h, h']
      · cases x == y <;> simp [h, h']
  | descending =>
    show (Value.compareFloats x y == some .gt) = decide (y < x)
    unfold Value.compareFloats
    by_cases h : x < y
    · simp_all
    · by_cases h' : y < x
      · simp [h, h']
      · cases x == y <;> simp [h, h']

theorem weak_beforeFloat (d : Direction) : Sorting.Weak (beforeFloat d) (·.isNaN = false) := by
  cases d with
  | ascending => exact Floats.weak_lt
  | descending => exact Floats.weak_lt.flip

theorem weak_before_float (d : Direction) :
    Sorting.Weak (before d) fun v => v.HasKind .float ∧ v.isNaN = false := by
  have eq_float : ∀ {v : Value}, v.HasKind .float → ∃ x, v = .float x := by
    intro v hv
    cases v <;> simp_all [Value.HasKind]
  refine ⟨?_, ?_⟩
  · rintro a b ⟨ha, na⟩ ⟨hb, nb⟩
    obtain ⟨x, rfl⟩ := eq_float ha
    obtain ⟨y, rfl⟩ := eq_float hb
    rw [before_float d na nb, before_float d nb na]
    exact (weak_beforeFloat d).asymm x y na nb
  · rintro a b c ⟨ha, na⟩ ⟨hb, nb⟩ ⟨hc, nc⟩
    obtain ⟨x, rfl⟩ := eq_float ha
    obtain ⟨y, rfl⟩ := eq_float hb
    obtain ⟨z, rfl⟩ := eq_float hc
    rw [before_float d na nb, before_float d nb nc, before_float d na nc]
    exact (weak_beforeFloat d).trans x y z na nb nc

/-- Sequences and mappings are not comparable, so none comes before another. -/
theorem before_of_nested {k : Kind} (hk : k = .sequence ∨ k = .struct) (d : Direction)
    (ha : a.HasKind k) : before d a b = false := by
  rcases hk with rfl | rfl <;> cases a <;> simp only [Value.HasKind] at ha <;>
    cases d <;> cases b <;> rfl

/-- **Values of one kind are in a strict weak order**, in both directions, if none is a NaN. -/
theorem weak_before_of_hasKind (k : Kind) (d : Direction) :
    Sorting.Weak (before d) fun v => v.HasKind k ∧ v.isNaN = false := by
  have nested (hk : k = .sequence ∨ k = .struct) :
      Sorting.Weak (before d) fun v => v.HasKind k ∧ v.isNaN = false :=
    ⟨fun a b ha hb _ => before_of_nested hk d hb.1, fun a b c ha _ _ _ _ =>
      before_of_nested hk d ha.1⟩
  cases k with
  | string | int | uint | bool => exact (weak_before rfl d).mono fun v h => h.1
  | float => exact weak_before_float d
  | sequence => exact nested (.inl rfl)
  | struct => exact nested (.inr rfl)

end Table

end Registrar
