import Registrar.Proofs.Comparing
import Registrar.Proofs.Grammar
import Registrar.Proofs.Runs

/-!
# What a query answers

What a query asks of the rows of a collection is said here without filters or a sorting algorithm:
the rows that meet every condition, in the order they were inserted in or in the one asked for
(`Query.Answers`). There is one such list, and a store answers with its window.

* `Filter.accepted_of_plain`: a filter accepts the rows that meet its condition.
* `Table.select_eq`: a table answers with the window of the matching rows, sorted.
* `Query.Answers.unique`: there is one answer.
-/

namespace Registrar

/-! ## What a query asks for -/

/-- The value at an index. -/
def Record.valueAt (r : Record) (i : Nat) : Value := r.values[i]?.getD .null

/-- How a value must stand to a literal. -/
def Operator.holds : Operator → Value → Value → Bool
  | .eq, v, w => v.equals w
  | .lt, v, w => v.precedes w
  | .lte, v, w => v.precedes w || v.equals w
  | .gt, v, w => w.precedes v
  | .gte, v, w => w.precedes v || v.equals w
  | .among, v, w => v.equals w

/-- Whether a row meets a condition: its value stands to one of the literals as it must. -/
def Condition.meets (s : Schema) (c : Condition) (r : Record) : Bool :=
  match s.index? c.field with
  | none => false
  | some i => c.operand.literals.any fun text =>
    (Value.parse? (s.fields.get i).kind text).any fun w => c.operator.holds (r.valueAt i) w

namespace Query

/-- The rows that meet every condition, as they were inserted. -/
def matching (q : Query) (s : Schema) (rows : List Record) : List Record :=
  rows.filter fun r => q.conditions.all fun c => c.meets s r

/-- What a query asks for before it is cut to its window: the matching rows, as they were inserted
or in order, where rows with equal values stay as they were inserted. -/
structure Answers (q : Query) (s : Schema) (rows answer : List Record) : Prop where
  members : answer.Perm (q.matching s rows)
  unordered : q.order = none → answer = q.matching s rows
  sorted : ∀ o i, q.order = some o → s.index? o.field = some i →
    answer.Pairwise fun a b => o.direction.ordered (a.valueAt i) (b.valueAt i) = true
  stable : ∀ o i, q.order = some o → s.index? o.field = some i → ∀ v : Value,
    answer.filter (fun r => v.equals (r.valueAt i)) =
      (q.matching s rows).filter fun r => v.equals (r.valueAt i)

end Query

/-- A condition on a field of an ordered kind, whose literals can all be read. -/
def Condition.Plain (s : Schema) (c : Condition) : Prop :=
  ∃ i, s.index? c.field = some i ∧ (s.fields.get i).kind.isOrdered = true ∧
    ∀ text ∈ c.operand.literals, ∃ w, Value.parse? (s.fields.get i).kind text = some w

/-- A query with conditions and an order on fields of ordered kinds, whose literals can be read. -/
structure Query.Plain (s : Schema) (q : Query) : Prop where
  conditions : ∀ c ∈ q.conditions, c.Plain s
  order : ∀ o, q.order = some o →
    ∃ i, s.index? o.field = some i ∧ (s.fields.get i).kind.isOrdered = true

/-! ## Filters -/

namespace Value

variable {k : Kind} {v w : Value}

theorem hasKind_of_parse? (hk : k.isOrdered = true) {text : String} (h : parse? k text = some w) :
    w.HasKind k := by
  cases k <;> simp only [parse?] at h
  case string =>
    obtain rfl := Option.some.inj h
    trivial
  case int =>
    obtain ⟨n, -, rfl⟩ := Option.map_eq_some_iff.mp h
    trivial
  case uint =>
    obtain ⟨n, -, rfl⟩ := Option.map_eq_some_iff.mp h
    trivial
  case bool =>
    obtain ⟨b, -, rfl⟩ := Option.map_eq_some_iff.mp h
    trivial
  case float => exact absurd hk (by decide)
  case sequence => exact absurd hk (by decide)
  case struct => exact absurd hk (by decide)

theorem relate?_eq (hk : k.isOrdered = true) (hv : v.HasKind k) (hw : w.HasKind k) :
    v.relate? w = some (if v.precedes w then .lt else if v.equals w then .eq else .gt) := by
  unfold relate?
  rw [compare?_eq hk hv hw]

/-- What an operator accepts of a comparison is what it must hold of. -/
theorem any_relate?_accepts (hk : k.isOrdered = true) (hv : v.HasKind k) (hw : w.HasKind k)
    (op : Operator) : (v.relate? w).any op.accepts = op.holds v w := by
  rw [relate?_eq hk hv hw, Option.any_some]
  cases op <;> unfold Operator.accepts Operator.holds <;>
    rcases trichotomy hk hv hw with ⟨h, h', h''⟩ | ⟨h, h', h''⟩ | ⟨h, h', h''⟩ <;>
      simp [h, h', h'']

end Value

theorem Record.getElem?_valueAt (r : Record) {i : Nat} (hi : i < r.values.length) :
    r.values[i]? = some (r.valueAt i) := by
  unfold valueAt
  rw [List.getElem?_eq_getElem hi]
  rfl

theorem Record.WellTyped.valueAt {r : Record} (h : r.WellTyped) (i : Fin r.schema.fields.length) :
    r.values[i.val]? = some (r.valueAt i) ∧ (r.valueAt i).HasKind (r.schema.fields.get i).kind := by
  have there := r.getElem?_values i
  have same : r.valueAt i = r.value i := by
    unfold Record.valueAt
    rw [there]
    rfl
  rw [same]
  exact ⟨there, h i _ _ (r.schema.getElem?_fields i) there⟩

/-! ### A filter is its condition -/

/-- Only `among` comes with several literals. -/
def Condition.Shaped (c : Condition) : Prop :=
  c.operator ≠ .among → ∃ text, c.operand = .single text

/-- A filter accepts a row of a schema just if the row meets a condition. -/
def Filter.For (s : Schema) (c : Condition) (f : Filter) : Prop :=
  ∀ r : Record, r.schema = s → r.WellTyped → f.accepted r = .ok (c.meets s r)

/-- A filter accepts what its operator accepts of some operand. -/
theorem Filter.accepts_eq {op : Operator} {ws : List Value} (i : Nat)
    (one : op ≠ .among → ∃ w, ws = [w]) (v : Value) :
    Filter.accepts ⟨i, op, ws⟩ v = ws.any fun w => (v.relate? w).any op.accepts := by
  unfold Filter.accepts
  by_cases among : op = .among
  · subst among
    refine any_of_forall₂ (List.forall₂_same.mpr fun w _ => rfl) fun w w' (same : w = w') => ?_
    rw [same]
    cases v.relate? w' <;> rfl
  · obtain ⟨w, rfl⟩ := one among
    rw [List.any_cons, List.any_nil, Bool.or_false]
    cases op <;> simp_all

theorem Field.literal_eq_ok {f : Field} {text : String} {w : Value} :
    f.literal text = .ok w ↔ Value.parse? f.kind text = some w := by
  unfold Field.literal
  cases Value.parse? f.kind text <;> simp

/-- **A plain condition has a filter**, and the filter accepts the rows that meet the condition. -/
theorem Filter.ofCondition_of_plain {s : Schema} {c : Condition} (shaped : c.Shaped)
    (plain : c.Plain s) : ∃ f, Filter.ofCondition s c = .ok f ∧ Filter.For s c f := by
  obtain ⟨i, hi, hk, literals⟩ := plain
  obtain ⟨ws, hws⟩ := exists_mapM_eq_ok (f := (s.fields.get i).literal) fun text htext =>
    (literals text htext).imp fun w => Field.literal_eq_ok.mpr
  refine ⟨⟨i, c.operator, ws⟩, ?_, fun r hr ht => ?_⟩
  · unfold Filter.ofCondition
    rw [hi]
    simp only
    rw [hws]
    rfl
  subst hr
  obtain ⟨there, kind⟩ := ht.valueAt i
  have all := mapM_eq_ok.mp hws
  have meets : c.meets r.schema r = ws.any fun w => c.operator.holds (r.valueAt i) w := by
    unfold Condition.meets
    rw [hi]
    refine any_of_forall₂ all fun text w hw => ?_
    rw [Field.literal_eq_ok.mp hw, Option.any_some]
  have accepts : ∀ w ∈ ws, ((r.valueAt i).relate? w).any c.operator.accepts =
      c.operator.holds (r.valueAt i) w := by
    intro w hw
    obtain ⟨text, -, hw⟩ := exists_of_forall₂ all hw
    exact Value.any_relate?_accepts hk kind
      (Value.hasKind_of_parse? hk (Field.literal_eq_ok.mp hw)) c.operator
  have one : c.operator ≠ .among → ∃ w, ws = [w] := by
    intro among
    obtain ⟨text, single⟩ := shaped among
    rw [single] at all
    obtain ⟨w, _, -, rest, rfl⟩ := List.forall₂_cons_left_iff.mp all
    exact ⟨w, by rw [List.forall₂_nil_left_iff.mp rest]⟩
  unfold Filter.accepted
  rw [there, meets]
  refine congrArg Except.ok ((Filter.accepts_eq i one _).trans ?_)
  exact any_of_forall₂ (List.forall₂_same.mpr accepts) fun _ _ h => h

/-! ### Compiled conditions -/

theorem Schema.Asks.shaped {s : Schema} {key value : String} {c : Condition}
    (h : s.Asks value key c) : c.Shaped := by
  cases h with
  | equal => exact fun _ => ⟨value, rfl⟩
  | compared => exact fun _ => ⟨value, rfl⟩
  | listed => exact fun single => absurd rfl single

/-- Compiled conditions have one literal, but for those that list some. -/
theorem Query.shaped_of_compile {s : Schema} {params : List (String × String)} {q : Query}
    (h : Query.compile s params = .ok q) : ∀ c ∈ q.conditions, c.Shaped := by
  intro c hc
  obtain ⟨key, value, asks⟩ := Query.asks_of_compile h c hc
  exact asks.shaped

/-! ## Selecting -/

variable {s : Schema} {conditions : List Condition} {filters : List Filter} {rows : List Record}

/-- Rows of one schema. -/
def RowsIn (s : Schema) (rows : List Record) : Prop := ∀ r ∈ rows, r.schema = s ∧ r.WellTyped

theorem RowsIn.lt_length (hrows : RowsIn s rows) (i : Fin s.fields.length) :
    ∀ r ∈ rows, i.val < r.values.length := by
  intro r hr
  rw [r.length_values, (hrows r hr).1]
  exact i.isLt

theorem Filter.allAccepted_eq {r : Record} (h : List.Forall₂ (Filter.For s) conditions filters)
    (hr : r.schema = s) (ht : r.WellTyped) :
    Filter.allAccepted filters r = .ok (conditions.all fun c => c.meets s r) := by
  induction h with
  | nil => rfl
  | @cons c f _ _ hf _ ih =>
    unfold Filter.allAccepted
    rw [hf r hr ht, List.all_cons]
    cases c.meets s r with
    | true => exact ih
    | false => rfl

/-- What is kept are the rows that meet every condition. -/
theorem Filter.keep_eq (h : List.Forall₂ (Filter.For s) conditions filters) :
    ∀ {rows : List Record}, RowsIn s rows →
      Filter.keep filters rows = .ok (rows.filter fun r => conditions.all fun c => c.meets s r)
  | [], _ => rfl
  | r :: rest, hrows => by
    obtain ⟨⟨hr, ht⟩, hrest⟩ := List.forall_mem_cons.mp hrows
    unfold Filter.keep
    rw [Filter.allAccepted_eq h hr ht, Filter.keep_eq h hrest, List.filter_cons]
    rfl

namespace Table

/-- Rows sorted by the values at an index. -/
def sortedBy (i : Nat) (d : Direction) (rows : List Record) : List Record :=
  Sorting.sort (fun a b => before d (a.valueAt i) (b.valueAt i)) rows

theorem sort_of_length_lt {α : Type} (p : α → α → Bool) : ∀ {l : List α}, l.length < 2 →
    Sorting.sort p l = l
  | [], _ => rfl
  | [_], _ => rfl
  | _ :: _ :: _, h => absurd h (by simp)

theorem arrange_eq {i : Nat} (d : Direction) (long : ∀ r ∈ rows, i < r.values.length) :
    arrange i d rows = .ok (sortedBy i d rows) := by
  unfold arrange sortedBy
  split
  · rename_i short
    rw [sort_of_length_lt _ short]
  · refine bind_eq_ok.mpr ⟨rows.map fun r => (r.valueAt i, r), ?_, ?_⟩
    · rw [mapM_eq_ok, List.forall₂_map_right_iff, List.forall₂_same]
      intro r hr
      rw [r.getElem?_valueAt (long r hr)]
    · rw [pure_eq_ok, Sorting.sort_map, List.map_map]
      exact List.map_id _

/-- The matching rows, sorted if an order is asked for. -/
def answer (q : Query) (s : Schema) (rows : List Record) : List Record :=
  match q.order with
  | none => q.matching s rows
  | some o =>
    match s.index? o.field with
    | none => q.matching s rows
    | some i => sortedBy i o.direction (q.matching s rows)

/-- The index and the direction of an order. -/
def ordering (s : Schema) : Option Order → Except Failure (Option (Nat × Direction))
  | none => .ok none
  | some o => (orderIndex s o).map fun i => some (i, o.direction)

/-- An order goes by the index of its field. -/
theorem index?_of_ordering {o : Option Order} {i : Nat} {d : Direction}
    (h : ordering s o = .ok (some (i, d))) :
    ∃ o' j, o = some o' ∧ s.index? o'.field = some j ∧ i = j.val := by
  cases o with
  | none => exact absurd h (by simp [ordering])
  | some o =>
    obtain ⟨k, hk, same⟩ := map_eq_ok.mp h
    obtain ⟨rfl, rfl⟩ := Prod.mk.inj (Option.some.inj same)
    unfold orderIndex at hk
    split at hk
    · rename_i j hj
      exact ⟨o, j, rfl, hj, (Except.ok.inj hk).symm⟩
    · exact absurd hk (by simp)

/-- What comes after conditions and order are read: the rows that pass, sorted, and the window. -/
def answering (t : Table) (q : Query) (filters : List Filter) (order : Option (Nat × Direction)) :
    Except Failure (List Record) := do
  let rows ← Filter.keep filters t.rows
  let rows ← match order with
    | some (i, d) => arrange i d rows
    | none => pure rows
  return (rows.drop q.offset).take q.limit

theorem select_eq_bind (t : Table) (s : Schema) (q : Query) :
    t.select s q = q.conditions.mapM (Filter.ofCondition s) >>= fun filters =>
      ordering s q.order >>= fun order => t.answering q filters order := by
  unfold select
  cases q.order <;> rfl

/-- **A table answers with the window** of the matching rows, sorted. -/
theorem select_eq {t : Table} {q : Query} (shaped : ∀ c ∈ q.conditions, c.Shaped)
    (plain : q.Plain s) (hrows : RowsIn s t.rows) :
    t.select s q = .ok (((answer q s t.rows).drop q.offset).take q.limit) := by
  have filtered : ∀ c ∈ q.conditions, ∃ f, Filter.ofCondition s c = .ok f ∧ Filter.For s c f :=
    fun c hc => Filter.ofCondition_of_plain (shaped c hc) (plain.conditions c hc)
  obtain ⟨filters, hfilters⟩ := exists_mapM_eq_ok (f := Filter.ofCondition s) fun c hc =>
    (filtered c hc).imp fun f hf => hf.1
  have all : List.Forall₂ (Filter.For s) q.conditions filters := by
    refine ((List.forall₂_and_left _ _).mpr ⟨filtered, mapM_eq_ok.mp hfilters⟩).imp ?_
    rintro c f ⟨⟨f', hf', for_⟩, hf⟩
    obtain rfl := Except.ok.inj (hf'.symm.trans hf)
    exact for_
  have kept := Filter.keep_eq all hrows
  have matched : RowsIn s (q.matching s t.rows) := fun r hr => hrows r (List.mem_filter.mp hr).1
  unfold select answer
  cases ho : q.order with
  | none =>
    exact bind_eq_ok.mpr ⟨filters, hfilters, bind_eq_ok.mpr ⟨none, rfl, bind_eq_ok.mpr
      ⟨_, kept, bind_eq_ok.mpr ⟨_, rfl, rfl⟩⟩⟩⟩
  | some o =>
    obtain ⟨i, hi, -⟩ := plain.order o ho
    have index : orderIndex s o = .ok i.val := by
      unfold orderIndex
      rw [hi]
    have sorted := arrange_eq o.direction (matched.lt_length i)
    simp only [hi]
    exact bind_eq_ok.mpr ⟨filters, hfilters, bind_eq_ok.mpr ⟨some (i.val, o.direction),
      map_eq_ok.mpr ⟨_, index, rfl⟩, bind_eq_ok.mpr ⟨_, kept, bind_eq_ok.mpr ⟨_, sorted, rfl⟩⟩⟩⟩

end Table

/-! ## The answer -/

namespace Query

variable {q : Query} {L L' : List Record}

theorem hasKind_of_matching (hrows : RowsIn s rows) (i : Fin s.fields.length) :
    ∀ r ∈ q.matching s rows, (r.valueAt i).HasKind (s.fields.get i).kind := by
  intro r hr
  obtain ⟨rfl, typed⟩ := hrows r (List.mem_filter.mp hr).1
  exact (typed.valueAt i).2

/-- The matching rows, sorted, are an answer. -/
theorem answers_answer (plain : q.Plain s) (hrows : RowsIn s rows) :
    q.Answers s rows (Table.answer q s rows) := by
  cases ho : q.order with
  | none =>
    have same : Table.answer q s rows = q.matching s rows := by
      unfold Table.answer
      rw [ho]
    exact ⟨.of_eq same, fun _ => same, fun o _ h => absurd (ho.symm.trans h) (by simp),
      fun o _ h => absurd (ho.symm.trans h) (by simp)⟩
  | some o =>
    obtain ⟨i, hi, hk⟩ := plain.order o ho
    have same : Table.answer q s rows = Table.sortedBy i o.direction (q.matching s rows) := by
      unfold Table.answer
      simp only [ho, hi]
    have kind := hasKind_of_matching (q := q) hrows i
    have perm : (Table.sortedBy i o.direction (q.matching s rows)).Perm (q.matching s rows) :=
      Sorting.perm_sort _ _
    rw [same]
    refine ⟨perm, fun h => absurd (ho.symm.trans h) (by simp), ?_, ?_⟩
    all_goals
      intro o' j ho' hj
      obtain rfl := Option.some.inj (ho.symm.trans ho')
      obtain rfl := Option.some.inj (hi.symm.trans hj)
    · have weak := (Table.weak_before hk o.direction).comap fun r : Record => r.valueAt i
      refine (Sorting.pairwise_sort weak kind).imp_of_mem fun {a b} ha hb behind => ?_
      exact (Table.ordered_iff hk _ (kind a (perm.mem_iff.mp ha)) (kind b (perm.mem_iff.mp hb))).mpr
        behind
    · intro v
      have apart : ∀ a b : Record, v.equals (a.valueAt i) = true → v.equals (b.valueAt i) = true →
          Table.before o.direction (a.valueAt i) (b.valueAt i) = false :=
        fun a b => Table.before_of_equals o.direction
      exact Sorting.filter_sort apart _

/-- **There is one answer.** -/
theorem Answers.unique (plain : q.Plain s) (hrows : RowsIn s rows) (h : q.Answers s rows L)
    (h' : q.Answers s rows L') : L = L' := by
  cases ho : q.order with
  | none => rw [h.unordered ho, h'.unordered ho]
  | some o =>
    obtain ⟨i, hi, hk⟩ := plain.order o ho
    have kind : ∀ L, q.Answers s rows L →
        ∀ r ∈ L, (r.valueAt i).HasKind (s.fields.get i).kind := fun L h r hr =>
      hasKind_of_matching hrows i r (h.members.mem_iff.mp hr)
    have sorted : ∀ L, q.Answers s rows L →
        L.Pairwise fun a b => Table.before o.direction (b.valueAt i) (a.valueAt i) = false := by
      intro L h
      refine (h.sorted o i ho hi).imp_of_mem fun {a b} ha hb inOrder => ?_
      exact (Table.ordered_iff hk _ (kind L h a ha) (kind L h b hb)).mp inOrder
    have tied : ∀ L, q.Answers s rows L → ∀ c : Record,
        (c.valueAt i).HasKind (s.fields.get i).kind →
          L.filter (Sorting.tied (fun a b : Record =>
            Table.before o.direction (a.valueAt i) (b.valueAt i)) c) =
            (q.matching s rows).filter fun r => (c.valueAt i).equals (r.valueAt i) := by
      intro L h c hc
      rw [← h.stable o i ho hi]
      exact List.filter_congr fun r hr => Table.tied_before hk _ hc (kind L h r hr)
    have weak := (Table.weak_before hk o.direction).comap fun r : Record => r.valueAt i
    exact Sorting.eq_of_stable weak (h.members.trans h'.members.symm) (kind L h) (sorted L h)
      (sorted L' h') fun c hc => (tied L h c hc).trans (tied L' h' c hc).symm

end Query

/-- Pages of a length, one after the other, are the list up to their end. -/
theorem flatMap_pages {α : Type} (l : List α) (n : Nat) : ∀ m : Nat,
    ((List.range m).flatMap fun k => (l.drop (k * n)).take n) = l.take (m * n)
  | 0 => by simp
  | m + 1 => by
    rw [List.range_succ, List.flatMap_append, flatMap_pages l n m, Nat.succ_mul, List.take_add]
    simp

/-! ## What a store answers -/

namespace Condition

/-- What a store finds of a row and a condition. -/
def test (s : Schema) (c : Condition) (r : Record) : Except Failure Bool :=
  Filter.ofCondition s c >>= fun f => f.accepted r

/-- A literal of an ordered kind, and any operator that takes one: the test comes out as the row
stands to the literal. -/
theorem test_eq {r : Record} (ht : r.WellTyped) {name text : String}
    {i : Fin r.schema.fields.length} {w : Value} (hi : r.schema.index? name = some i)
    (hk : (r.schema.fields.get i).kind.isOrdered = true)
    (hw : Value.parse? (r.schema.fields.get i).kind text = some w) (op : Operator) :
    test r.schema ⟨name, op, .single text⟩ r = .ok (op.holds (r.valueAt i) w) := by
  have plain : Condition.Plain r.schema ⟨name, op, .single text⟩ := by
    refine ⟨i, hi, hk, fun text' h => ⟨w, ?_⟩⟩
    rw [List.mem_singleton.mp h]
    exact hw
  obtain ⟨f, hf, for_⟩ := Filter.ofCondition_of_plain (fun _ => ⟨text, rfl⟩) plain
  refine bind_eq_ok.mpr ⟨f, hf, (for_ r rfl ht).trans (congrArg Except.ok ?_)⟩
  unfold meets
  rw [hi]
  simp only [Operand.literals, List.any_cons, List.any_nil, Bool.or_false, hw, Option.any_some]

end Condition

namespace Store

variable {writers : List Schema} {st : Store} {q : Query}

/-- **A store answers a query with the window of its one answer**, whatever calls were made of it
before. So pages laid one behind the other are the answer, and for every literal a row passes
exactly one of `lt`, `eq` and `gt`, and passes `lte` or `gte` as it passes these. -/
theorem select_window {d : Descriptor} {reg : Registry} (hreg : d.resolve = .ok reg)
    (hw : ∀ s ∈ writers, s ∈ reg.schemas) (hst : Reachable writers st)
    (own : ∀ s' ∈ writers, s'.collection = s.collection → s' = s)
    {params : List (String × String)} (hq : Query.compile s params = .ok q) (plain : q.Plain s) :
    ∃ answer, q.Answers s (st.table s.collection).rows answer ∧
      (∀ other, q.Answers s (st.table s.collection).rows other → other = answer) ∧
      Store.select s q st = (.ok ((answer.drop q.offset).take q.limit), st) ∧
      (∀ n m, answer.length ≤ m * n → ∃ page : Nat → List Record,
        (∀ k, Store.select s { q with limit := n, offset := k * n } st = (.ok (page k), st)) ∧
          (List.range m).flatMap page = answer) ∧
      ∀ r ∈ (st.table s.collection).rows, ∀ (name text : String) (i : Fin s.fields.length)
        (w : Value), s.index? name = some i → (s.fields.get i).kind.isOrdered = true →
        Value.parse? (s.fields.get i).kind text = some w →
        ∃ lt eq gt : Bool, lt.toNat + eq.toNat + gt.toNat = 1 ∧
          Condition.test s ⟨name, .lt, .single text⟩ r = .ok lt ∧
          Condition.test s ⟨name, .eq, .single text⟩ r = .ok eq ∧
          Condition.test s ⟨name, .gt, .single text⟩ r = .ok gt ∧
          Condition.test s ⟨name, .lte, .single text⟩ r = .ok (lt || eq) ∧
          Condition.test s ⟨name, .gte, .single text⟩ r = .ok (gt || eq) := by
  have sound : ∀ s ∈ writers, s.Sound := fun s hs =>
    (Registry.sound_of_resolve hreg).schemas s (hw s hs)
  have hrows : RowsIn s (st.table s.collection).rows := by
    intro r hr
    obtain ⟨hschema, collection, typed, -⟩ := rowsOf_of_run sound hst _ r hr
    exact ⟨own _ hschema collection, typed⟩
  have shaped := Query.shaped_of_compile hq
  have answers := Query.answers_answer plain hrows
  refine ⟨Table.answer q s (st.table s.collection).rows, answers,
    fun other h => h.unique plain hrows answers, ?_, fun n m long => ?_, ?_⟩
  · exact congrArg (·, st) (Table.select_eq shaped plain hrows)
  · have paged := fun k : Nat => Table.select_eq (q := { q with limit := n, offset := k * n })
      shaped ⟨plain.conditions, plain.order⟩ hrows
    refine ⟨_, fun k => congrArg (·, st) (paged k), ?_⟩
    exact (flatMap_pages _ n m).trans (List.take_of_length_le long)
  · intro r hr name text i w hi hk hparse
    obtain ⟨rfl, typed⟩ := hrows r hr
    have test := Condition.test_eq typed hi hk hparse
    refine ⟨_, _, _, ?_, test .lt, test .eq, test .gt, test .lte, test .gte⟩
    have kind := (typed.valueAt i).2
    show ((r.valueAt i).precedes w).toNat + ((r.valueAt i).equals w).toNat +
      (w.precedes (r.valueAt i)).toNat = 1
    rcases Value.trichotomy hk kind (Value.hasKind_of_parse? hk hparse) with
      ⟨h, h', h''⟩ | ⟨h, h', h''⟩ | ⟨h, h', h''⟩ <;> rw [h, h', h''] <;> rfl

/-- A query for the last of the notes with a number from 1 on. -/
def lastNote : Query :=
  ⟨[⟨"id", .gte, .single "1"⟩], some ⟨"id", .descending⟩, 1, 0, none⟩

theorem compile_lastNote :
    Query.compile note [("gte-id", "1"), ("q-order", "desc-id"), ("q-limit", "1")] =
      .ok lastNote := by
  cbv

theorem select_window_lastNote :
    notes.resolve = .ok ⟨[note]⟩ ∧ Reachable [note] twoNotes ∧
    Query.compile note [("gte-id", "1"), ("q-order", "desc-id"), ("q-limit", "1")] = .ok lastNote ∧
    lastNote.Plain note ∧
    ∃ answer, lastNote.Answers note (twoNotes.table "note").rows answer ∧
      Store.select note lastNote twoNotes = (.ok (answer.take 1), twoNotes) := by
  have plain : lastNote.Plain note := by
    refine ⟨fun c hc => ?_, fun o ho => ?_⟩
    · rw [List.mem_singleton.mp hc]
      refine ⟨note.primaryKey, rfl, rfl, fun text htext => ?_⟩
      rw [List.mem_singleton.mp htext]
      exact ⟨.int 1, rfl⟩
    · obtain rfl := Option.some.inj ho
      exact ⟨note.primaryKey, rfl, rfl⟩
  obtain ⟨answer, answers, -, selected, -⟩ := select_window notes_resolve (fun s hs => hs)
    reachable_twoNotes (fun s hs _ => List.mem_singleton.mp hs) compile_lastNote plain
  exact ⟨notes_resolve, reachable_twoNotes, compile_lastNote, plain, answer, answers, selected⟩

end Store

end Registrar
