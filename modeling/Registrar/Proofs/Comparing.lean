import Mathlib.Data.Prod.Lex
import Mathlib.Data.String.Basic
import Registrar.Proofs.Sorted
import Registrar.Store.Table

/-!
# The order of values of one kind

Texts, whole numbers and truth values have an order of their own: texts character by character,
numbers by value, `false` before `true` (`precedes`, `equals`). A comparison of two values of one
such kind goes by that order (`compare?_eq`), so operators and directions can be read off it.

* `trichotomy`: of two values exactly one precedes the other, or they are equal.
* `weak_before`: the relation that rows are sorted by is a strict weak order, in both directions.
-/

namespace Registrar

/-- The kinds whose values have an order of their own. -/
def Kind.isOrdered : Kind → Bool
  | .string | .int | .uint | .bool => true
  | .float | .sequence | .struct => false

namespace Value

/-- Whether a value comes before another one of its kind. -/
def precedes : Value → Value → Bool
  | .string a, .string b => decide (a.toList < b.toList)
  | .int a, .int b => decide (a.toInt < b.toInt)
  | .uint a, .uint b => decide (a.toNat < b.toNat)
  | .bool a, .bool b => !a && b
  | _, _ => false

/-- Whether two values of one kind are equal. -/
def equals : Value → Value → Bool
  | .string a, .string b => decide (a.toList = b.toList)
  | .int a, .int b => decide (a.toInt = b.toInt)
  | .uint a, .uint b => decide (a.toNat = b.toNat)
  | .bool a, .bool b => a == b
  | _, _ => false

variable {k : Kind} {a b c : Value}

/-- Values of an ordered kind are texts, whole numbers or truth values. -/
theorem eq_of_isOrdered (hk : k.isOrdered = true) (ha : a.HasKind k) (hb : b.HasKind k) :
    (∃ s t, a = .string s ∧ b = .string t) ∨ (∃ m n, a = .int m ∧ b = .int n) ∨
      (∃ m n, a = .uint m ∧ b = .uint n) ∨ ∃ x y, a = .bool x ∧ b = .bool y := by
  cases k with
  | string =>
    cases a <;> simp only [HasKind] at ha
    cases b <;> simp only [HasKind] at hb
    exact .inl ⟨_, _, rfl, rfl⟩
  | int =>
    cases a <;> simp only [HasKind] at ha
    cases b <;> simp only [HasKind] at hb
    exact .inr (.inl ⟨_, _, rfl, rfl⟩)
  | uint =>
    cases a <;> simp only [HasKind] at ha
    cases b <;> simp only [HasKind] at hb
    exact .inr (.inr (.inl ⟨_, _, rfl, rfl⟩))
  | bool =>
    cases a <;> simp only [HasKind] at ha
    cases b <;> simp only [HasKind] at hb
    exact .inr (.inr (.inr ⟨_, _, rfl, rfl⟩))
  | float => exact absurd hk (by decide)
  | sequence => exact absurd hk (by decide)
  | struct => exact absurd hk (by decide)

/-- Only values of ordered kinds are found equal, and then they are. -/
theorem eq_of_equals (h : a.equals b = true) : a = b ∧ ∃ k, k.isOrdered = true ∧ a.HasKind k := by
  cases a <;> cases b <;> simp only [equals, decide_eq_true_eq, beq_iff_eq, reduceCtorEq] at h
  case string.string => exact ⟨congrArg _ (String.toList_inj.mp h), .string, rfl, trivial⟩
  case int.int => exact ⟨congrArg _ (Int64.toInt_inj.mp h), .int, rfl, trivial⟩
  case uint.uint => exact ⟨congrArg _ (UInt64.toNat_inj.mp h), .uint, rfl, trivial⟩
  case bool.bool => exact ⟨congrArg _ h, .bool, rfl, trivial⟩

/-- **A comparison goes by the order of the kind.** -/
theorem compare?_eq (hk : k.isOrdered = true) (ha : a.HasKind k) (hb : b.HasKind k) :
    a.compare? b = some (if a.precedes b then .lt else if a.equals b then .eq else .gt) := by
  rcases eq_of_isOrdered hk ha hb with
    ⟨s, t, rfl, rfl⟩ | ⟨m, n, rfl, rfl⟩ | ⟨m, n, rfl, rfl⟩ | ⟨x, y, rfl, rfl⟩
  · simp only [compare?, precedes, equals, decide_eq_true_eq, String.toList_inj]
    rfl
  · simp only [compare?, precedes, equals, decide_eq_true_eq, ← Int64.lt_iff_toInt_lt,
      Int64.toInt_inj]
    rfl
  · simp only [compare?, precedes, equals, decide_eq_true_eq, ← UInt64.lt_iff_toNat_lt,
      UInt64.toNat_inj]
    rfl
  · cases x <;> cases y <;> rfl

/-! ## One line for all kinds -/

/-- Where a value stands on one line with all the others. -/
def place : Value → List Char ×ₗ Int
  | .string s => toLex (s.toList, 0)
  | .int n => toLex ([], n.toInt)
  | .uint n => toLex ([], n.toNat)
  | .bool b => toLex ([], b.toInt)
  | _ => toLex ([], 0)

theorem precedes_iff (hk : k.isOrdered = true) (ha : a.HasKind k) (hb : b.HasKind k) :
    a.precedes b = true ↔ a.place < b.place := by
  rcases eq_of_isOrdered hk ha hb with
    ⟨s, t, rfl, rfl⟩ | ⟨m, n, rfl, rfl⟩ | ⟨m, n, rfl, rfl⟩ | ⟨x, y, rfl, rfl⟩
  · simp [precedes, place, Prod.Lex.toLex_lt_toLex]
  · simp [precedes, place, Prod.Lex.toLex_lt_toLex]
  · simp [precedes, place, Prod.Lex.toLex_lt_toLex]
  · cases x <;> cases y <;> simp [precedes, place, Prod.Lex.toLex_lt_toLex]

theorem equals_iff (hk : k.isOrdered = true) (ha : a.HasKind k) (hb : b.HasKind k) :
    a.equals b = true ↔ a.place = b.place := by
  rcases eq_of_isOrdered hk ha hb with
    ⟨s, t, rfl, rfl⟩ | ⟨m, n, rfl, rfl⟩ | ⟨m, n, rfl, rfl⟩ | ⟨x, y, rfl, rfl⟩
  · simp [equals, place]
  · simp [equals, place]
  · simp only [equals, place, decide_eq_true_eq, toLex_inj, Prod.mk.injEq, true_and,
      Int.natCast_inj]
  · cases x <;> cases y <;> simp [equals, place]

/-- **Of two values exactly one precedes the other, or they are equal.** -/
theorem trichotomy (hk : k.isOrdered = true) (ha : a.HasKind k) (hb : b.HasKind k) :
    (a.precedes b = true ∧ a.equals b = false ∧ b.precedes a = false) ∨
      (a.precedes b = false ∧ a.equals b = true ∧ b.precedes a = false) ∨
      (a.precedes b = false ∧ a.equals b = false ∧ b.precedes a = true) := by
  simp only [← Bool.not_eq_true, precedes_iff hk ha hb, equals_iff hk ha hb, precedes_iff hk hb ha]
  rcases lt_trichotomy a.place b.place with h | h | h
  · exact .inl ⟨h, h.ne, h.not_gt⟩
  · exact .inr (.inl ⟨h.not_lt, h, h.not_gt⟩)
  · exact .inr (.inr ⟨h.not_gt, h.ne', h⟩)

theorem weak_precedes (hk : k.isOrdered = true) : Sorting.Weak precedes (·.HasKind k) := by
  refine ⟨fun a b ha hb h => ?_, fun a b c ha hb hc h h' => ?_⟩
  · exact eq_false_of_ne_true (mt (precedes_iff hk hb ha).mp ((precedes_iff hk ha hb).mp h).not_gt)
  · have le := not_lt.mp (mt (precedes_iff hk ha hb).mpr (ne_true_of_eq_false h))
    have le' := not_lt.mp (mt (precedes_iff hk hb hc).mpr (ne_true_of_eq_false h'))
    exact eq_false_of_ne_true (mt (precedes_iff hk ha hc).mp (le'.trans le).not_gt)

end Value

/-! ## Directions -/

namespace Direction

variable {k : Kind} {a b : Value}

/-- Whether two values stand in the order that a direction asks for. -/
def ordered (d : Direction) (a b : Value) : Bool :=
  match d with
  | .ascending => a.precedes b || a.equals b
  | .descending => b.precedes a || b.equals a

end Direction

namespace Table

variable {k : Kind} {a b : Value}

theorem before_ascending (hk : k.isOrdered = true) (ha : a.HasKind k) (hb : b.HasKind k) :
    before .ascending a b = a.precedes b := by
  unfold before
  simp only
  rw [Value.compare?_eq hk ha hb]
  cases a.precedes b <;> cases a.equals b <;> rfl

theorem before_descending (hk : k.isOrdered = true) (ha : a.HasKind k) (hb : b.HasKind k) :
    before .descending a b = b.precedes a := by
  unfold before
  simp only
  rw [Value.compare?_eq hk ha hb]
  rcases Value.trichotomy hk ha hb with ⟨h, h', h''⟩ | ⟨h, h', h''⟩ | ⟨h, h', h''⟩ <;>
    simp [h, h', h'']

/-- **Rows are sorted by a strict weak order**, in both directions. -/
theorem weak_before (hk : k.isOrdered = true) (d : Direction) :
    Sorting.Weak (before d) (·.HasKind k) := by
  have weak := Value.weak_precedes hk
  cases d with
  | ascending =>
    refine ⟨fun a b ha hb => ?_, fun a b c ha hb hc => ?_⟩
    · rw [before_ascending hk ha hb, before_ascending hk hb ha]
      exact weak.asymm a b ha hb
    · rw [before_ascending hk ha hb, before_ascending hk hb hc, before_ascending hk ha hc]
      exact weak.trans a b c ha hb hc
  | descending =>
    refine ⟨fun a b ha hb => ?_, fun a b c ha hb hc => ?_⟩
    · rw [before_descending hk ha hb, before_descending hk hb ha]
      exact weak.asymm b a hb ha
    · rw [before_descending hk ha hb, before_descending hk hb hc, before_descending hk ha hc]
      exact fun h h' => weak.trans c b a hc hb ha h' h

/-- Of values that equal one value none comes before another. -/
theorem before_of_equals {v : Value} (d : Direction) (ha : v.equals a = true)
    (hb : v.equals b = true) : before d a b = false := by
  obtain ⟨rfl, k, hk, kind⟩ := Value.eq_of_equals ha
  obtain ⟨rfl, -⟩ := Value.eq_of_equals hb
  exact (weak_before hk d).irrefl kind

/-- What does not stand behind stands in order. -/
theorem ordered_iff (hk : k.isOrdered = true) (d : Direction) (ha : a.HasKind k)
    (hb : b.HasKind k) : d.ordered a b = true ↔ before d b a = false := by
  cases d with
  | ascending =>
    rw [before_ascending hk hb ha]
    unfold Direction.ordered
    rcases Value.trichotomy hk ha hb with ⟨h, h', h''⟩ | ⟨h, h', h''⟩ | ⟨h, h', h''⟩ <;>
      simp [h, h', h'']
  | descending =>
    rw [before_descending hk hb ha]
    unfold Direction.ordered
    rcases Value.trichotomy hk hb ha with ⟨h, h', h''⟩ | ⟨h, h', h''⟩ | ⟨h, h', h''⟩ <;>
      simp [h, h', h'']

/-- Two values are tied iff they are equal. -/
theorem tied_before (hk : k.isOrdered = true) (d : Direction) (ha : a.HasKind k)
    (hb : b.HasKind k) : Sorting.tied (before d) a b = a.equals b := by
  unfold Sorting.tied
  cases d with
  | ascending =>
    rw [before_ascending hk ha hb, before_ascending hk hb ha]
    rcases Value.trichotomy hk ha hb with ⟨h, h', h''⟩ | ⟨h, h', h''⟩ | ⟨h, h', h''⟩ <;>
      simp [h, h', h'']
  | descending =>
    rw [before_descending hk ha hb, before_descending hk hb ha]
    rcases Value.trichotomy hk ha hb with ⟨h, h', h''⟩ | ⟨h, h', h''⟩ | ⟨h, h', h''⟩ <;>
      simp [h, h', h'']

end Table

end Registrar
