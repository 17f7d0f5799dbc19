import Registrar.Proofs.Failures
import Registrar.Proofs.FloatOrder

/-!
# Where rows can be sorted

Rows are sorted by a comparison of their values at an index. A sort may rely on that comparison to
be a strict weak order among the rows it is given; where it is none, as beside a NaN or among values
of several kinds, a sort may stop or leave the rows in any order, and what a table answers there is
not to be relied on. Rows can be sorted (`Table.Sortable`) where there is such an order, and then
every stable sort makes the same of them.

* `Query.Sortable`: the rows that a query has to sort can be sorted.
* **`Table.select_eq_ok_iff`**: there a table answers with what any stable sort gives, and with
  nothing else.
* `Query.sortable_of_hasKind`: values of one kind can be sorted if none of them is a NaN.

Out of scope: what a sort does with rows that cannot be sorted.
-/

namespace Registrar

/-! ## The condition -/

/-- Rows can be sorted by the values at an index: there the comparison is a strict weak order. -/
def Table.Sortable (i : Nat) (d : Direction) (rows : List Record) : Prop :=
  Sorting.Weak (Table.before d) fun v => ∃ r ∈ rows, r.values[i]? = some v

namespace Query

/-- The rows that a query has to sort can be sorted: those that its conditions keep. -/
def Sortable (s : Schema) (q : Query) (t : Table) : Prop :=
  ∀ filters kept o i, q.conditions.mapM (Filter.ofCondition s) = .ok filters →
    Filter.keep filters t.rows = .ok kept → q.order = some o → s.index? o.field = some i →
    Table.Sortable i o.direction kept

/-- Rows in the order that a query asks for: as they were, or as some stable sort leaves them. -/
def Arranges (s : Schema) (q : Query) (kept sorted : List Record) : Prop :=
  match q.order with
  | none => sorted = kept
  | some o => ∃ i, s.index? o.field = some i ∧ Sorting.Stable
    (fun a b : Record => Table.before o.direction (a.valueAt i) (b.valueAt i)) kept sorted

/-- What a query may be answered with, whichever stable sort is used. -/
def Selects (s : Schema) (q : Query) (t : Table) (rows : List Record) : Prop :=
  ∃ filters kept sorted, q.conditions.mapM (Filter.ofCondition s) = .ok filters ∧
    Filter.keep filters t.rows = .ok kept ∧ q.Arranges s kept sorted ∧
    rows = (sorted.drop q.offset).take q.limit

end Query

/-! ## One answer for every stable sort -/

namespace Table

variable {s : Schema} {q : Query} {t : Table} {rows kept sorted : List Record} {i : Nat}
  {d : Direction}

theorem Sortable.weak (h : Sortable i d rows) (long : ∀ r ∈ rows, i < r.values.length) :
    Sorting.Weak (fun a b : Record => before d (a.valueAt i) (b.valueAt i)) (· ∈ rows) :=
  (h.comap fun r => r.valueAt i).mono fun r hr => ⟨r, hr, r.getElem?_valueAt (long r hr)⟩

/-- Rows that can be sorted are sorted as by any stable sort. -/
theorem arrange_eq_ok_iff (h : Sortable i d rows) (long : ∀ r ∈ rows, i < r.values.length) :
    arrange i d rows = .ok sorted ↔ Sorting.Stable
      (fun a b : Record => before d (a.valueAt i) (b.valueAt i)) rows sorted := by
  rw [arrange_eq d long, Sorting.stable_iff (h.weak long), Except.ok.injEq]
  exact eq_comm

/-- Rows in order, if an order is asked for. -/
def inOrder (order : Option (Nat × Direction)) (kept : List Record) :
    Except Failure (List Record) :=
  match order with
  | some (i, d) => arrange i d kept
  | none => .ok kept

theorem answering_eq (t : Table) (q : Query) (filters : List Filter)
    (order : Option (Nat × Direction)) :
    t.answering q filters order = Filter.keep filters t.rows >>= fun kept =>
      inOrder order kept >>= fun sorted => .ok ((sorted.drop q.offset).take q.limit) := by
  unfold answering inOrder
  cases order <;> rfl

theorem arranges_iff (long : ∀ r ∈ t.rows, s.fields.length ≤ r.values.length)
    (sortable : q.Sortable s t) {filters : List Filter}
    (hfilters : q.conditions.mapM (Filter.ofCondition s) = .ok filters)
    (hkept : Filter.keep filters t.rows = .ok kept) :
    (∃ order, ordering s q.order = .ok order ∧ inOrder order kept = .ok sorted) ↔
      q.Arranges s kept sorted := by
  unfold Query.Arranges
  cases ho : q.order with
  | none =>
    constructor
    · rintro ⟨order, horder, h⟩
      obtain rfl := Except.ok.inj horder
      exact (Except.ok.inj h).symm
    · rintro rfl
      exact ⟨none, rfl, rfl⟩
  | some o =>
    have iff : ∀ i, s.index? o.field = some i → (arrange i o.direction kept = .ok sorted ↔ _) :=
      fun i hi => arrange_eq_ok_iff (sortable filters kept o i hfilters hkept ho hi) fun r hr =>
        Nat.lt_of_lt_of_le i.isLt (long r (Filter.mem_of_mem_keep hkept r hr))
    constructor
    · rintro ⟨order, horder, h⟩
      obtain ⟨k, hk, rfl⟩ := map_eq_ok.mp horder
      obtain ⟨o', i, ho', hi, rfl⟩ := index?_of_ordering horder
      obtain rfl := Option.some.inj ho'
      exact ⟨i, hi, (iff i hi).mp h⟩
    · rintro ⟨i, hi, h⟩
      refine ⟨some (i, o.direction), ?_, (iff i hi).mpr h⟩
      simp only [ordering, orderIndex, hi]
      rfl

/-- **A table answers with what any stable sort gives**, and with nothing else, where its rows are
no shorter than the schema and those to be sorted can be sorted. -/
theorem select_eq_ok_iff (long : ∀ r ∈ t.rows, s.fields.length ≤ r.values.length)
    (sortable : q.Sortable s t) : t.select s q = .ok rows ↔ q.Selects s t rows := by
  rw [select_eq_bind]
  constructor
  · intro h
    obtain ⟨filters, hfilters, h⟩ := bind_eq_ok.mp h
    obtain ⟨order, horder, h⟩ := bind_eq_ok.mp h
    rw [answering_eq] at h
    obtain ⟨kept, hkept, h⟩ := bind_eq_ok.mp h
    obtain ⟨sorted, hsorted, h⟩ := bind_eq_ok.mp h
    exact ⟨filters, kept, sorted, hfilters, hkept,
      (arranges_iff long sortable hfilters hkept).mp ⟨order, horder, hsorted⟩,
      (Except.ok.inj h).symm⟩
  · rintro ⟨filters, kept, sorted, hfilters, hkept, arranges, rfl⟩
    obtain ⟨order, horder, hsorted⟩ := (arranges_iff long sortable hfilters hkept).mpr arranges
    refine bind_eq_ok.mpr ⟨filters, hfilters, bind_eq_ok.mpr ⟨order, horder, ?_⟩⟩
    rw [answering_eq]
    exact bind_eq_ok.mpr ⟨kept, hkept, bind_eq_ok.mpr ⟨sorted, hsorted, rfl⟩⟩

end Table

/-! ## Where the condition holds -/

/-- **Values of one kind can be sorted** if none of them is a NaN. -/
theorem Query.sortable_of_hasKind {s : Schema} {q : Query} {t : Table}
    (h : ∀ (o : Order) (i : Fin s.fields.length), q.order = some o → s.index? o.field = some i →
      ∀ r ∈ t.rows, ∀ v, r.values[i.val]? = some v →
        v.HasKind (s.fields.get i).kind ∧ v.isNaN = false) : q.Sortable s t := by
  intro filters kept o i _ hkept ho hi
  refine (Table.weak_before_of_hasKind (s.fields.get i).kind o.direction).mono ?_
  rintro v ⟨r, hr, hv⟩
  exact h o i ho hi r (Filter.mem_of_mem_keep hkept r hr) v hv

end Registrar
