import Registrar.Proofs.ByKey
import Registrar.Proofs.Clauses
import Registrar.Proofs.Grammar
import Registrar.Proofs.Numbering

/-!
# The order of rows and the order that is asked for

A query is answered by a store, or rendered as a statement with an order clause. Where the query
asks for an order, the store sorts, and its rows stand as the clause asks. Where it asks for none,
the clause asks for the key, and the store leaves the rows as they were inserted: they stand as
asked only as far as their keys came in ascending. Keys that are whole numbers do so while the
store assigns all of them, since the numbers rise; the decimal texts of rising numbers do not.

* `Table.sublist_of_select`: the rows answered with are some of those in the table, sorted if an
  order is asked for.
* `Store.ascending_of_run`: whole numbers that the store assigns ascend.
* **`Store.select_in_order`**: in which order rows come, against the clause.
* `Store.select_out_of_order`: without an order asked for they may come in another one.
-/

namespace Registrar

variable {s : Schema} {i : Nat} {d : Direction} {rows : List Record}

/-- Rows stand in the order of their values at an index. -/
def Record.InOrder (i : Nat) (d : Direction) (rows : List Record) : Prop :=
  rows.Pairwise fun a b => d.ordered (a.valueAt i) (b.valueAt i) = true

/-- Keys come one after the other in ascending order. -/
def Value.Ascending (keys : List Value) : Prop :=
  keys.Pairwise fun v w => Direction.ascending.ordered v w = true

theorem Record.valueAt_key (r : Record) : r.valueAt r.schema.primaryKey = r.key := by
  unfold valueAt
  rw [r.getElem?_key]
  rfl

/-! ## Answers -/

/-- What is kept is some of the rows, in the order they came in. -/
theorem Filter.keep_sublist {filters : List Filter} : ∀ {rows kept : List Record},
    keep filters rows = .ok kept → kept.Sublist rows
  | [], kept, h => by
    obtain rfl := Except.ok.inj h
    exact List.Sublist.slnil
  | r :: rest, kept, h => by
    unfold keep at h
    obtain ⟨passes, -, h⟩ := bind_eq_ok.mp h
    obtain ⟨later, hlater, h⟩ := bind_eq_ok.mp h
    obtain rfl := pure_eq_ok.mp h
    have sub := keep_sublist hlater
    split
    · exact sub.cons_cons r
    · exact sub.cons r

/-- The query for the first rows, whatever they are. -/
def Query.first (n : Nat) : Query := { blank with limit := n }

namespace Table

variable {t : Table} {q : Query}

theorem sublist_window (q : Query) (rows : List Record) :
    ((rows.drop q.offset).take q.limit).Sublist rows :=
  (List.take_sublist _ _).trans (List.drop_sublist _ _)

/-- **The rows answered with**: without an order, some of those in the table as they stand there. -/
theorem sublist_of_select (unordered : q.order = none) (h : t.select s q = .ok rows) :
    rows.Sublist t.rows := by
  rw [select_eq_bind, unordered] at h
  obtain ⟨filters, -, h⟩ := bind_eq_ok.mp h
  obtain ⟨order, horder, h⟩ := bind_eq_ok.mp h
  obtain rfl := Except.ok.inj horder
  obtain ⟨kept, hkept, h⟩ := bind_eq_ok.mp h
  obtain rfl := pure_eq_ok.mp h
  exact (sublist_window q kept).trans (Filter.keep_sublist hkept)

/-- With one, some of them sorted. -/
theorem sublist_of_select_ordered {o : Order} {i : Fin s.fields.length} (ordered : q.order = some o)
    (hi : s.index? o.field = some i) (hrows : RowsIn s t.rows) (h : t.select s q = .ok rows) :
    ∃ kept, kept.Sublist t.rows ∧ rows.Sublist (sortedBy i o.direction kept) := by
  rw [select_eq_bind, ordered] at h
  obtain ⟨filters, -, h⟩ := bind_eq_ok.mp h
  obtain ⟨order, horder, h⟩ := bind_eq_ok.mp h
  have index : ordering s (some o) = .ok (some (i.val, o.direction)) := by
    simp [ordering, orderIndex, hi, Except.map]
  obtain rfl := Except.ok.inj (index.symm.trans horder)
  obtain ⟨kept, hkept, h⟩ := bind_eq_ok.mp h
  have sub := Filter.keep_sublist hkept
  obtain ⟨sorted, hsorted, h⟩ := bind_eq_ok.mp h
  obtain rfl := pure_eq_ok.mp h
  have own : RowsIn s kept := fun r hr => hrows r (sub.subset hr)
  obtain rfl := Except.ok.inj ((arrange_eq o.direction (own.lt_length i)).symm.trans hsorted)
  exact ⟨kept, sub, sublist_window q _⟩

/-- **Sorted rows stand in order.** -/
theorem inOrder_sortedBy {i : Fin s.fields.length} (hk : (s.fields.get i).kind.isOrdered = true)
    (d : Direction) (hrows : RowsIn s rows) : Record.InOrder i d (sortedBy i d rows) := by
  have kind : ∀ r ∈ rows, (r.valueAt i).HasKind (s.fields.get i).kind := by
    intro r hr
    obtain ⟨rfl, typed⟩ := hrows r hr
    exact (typed.valueAt i).2
  have perm : (sortedBy i d rows).Perm rows := Sorting.perm_sort _ _
  have weak := (weak_before hk d).comap fun r : Record => r.valueAt i
  refine (Sorting.pairwise_sort weak kind).imp_of_mem fun {a b} ha hb behind => ?_
  exact (ordered_iff hk d (kind a (perm.mem_iff.mp ha)) (kind b (perm.mem_iff.mp hb))).mpr behind

theorem valueAt_of_rowsIn (hrows : RowsIn s rows) : ∀ r ∈ rows, r.valueAt s.primaryKey = r.key := by
  intro r hr
  obtain ⟨rfl, -⟩ := hrows r hr
  exact r.valueAt_key

/-- Rows whose keys ascend stand in the order of the keys. -/
theorem inOrder_of_ascending (hrows : RowsIn s t.rows) (ascending : Value.Ascending t.keys)
    (sub : rows.Sublist t.rows) : Record.InOrder s.primaryKey .ascending rows := by
  refine ((List.pairwise_map.mp ascending).imp_of_mem fun {a b} ha hb inOrder => ?_).sublist sub
  rw [valueAt_of_rowsIn hrows a ha, valueAt_of_rowsIn hrows b hb]
  exact inOrder

theorem select_first (hrows : RowsIn s t.rows) :
    t.select s (.first t.rows.length) = .ok t.rows := by
  have plain : (Query.first t.rows.length).Plain s :=
    ⟨fun c hc => absurd hc List.not_mem_nil,
      fun o ordered => absurd ordered (by simp [Query.first, Query.blank])⟩
  have all : answer (.first t.rows.length) s t.rows = t.rows :=
    List.filter_eq_self.mpr fun _ _ => rfl
  rw [select_eq (fun c hc => absurd hc List.not_mem_nil) plain hrows, all]
  exact congrArg Except.ok (List.take_of_length_le (Nat.le_refl t.rows.length))

/-- **Rows come in the order of the keys**, whatever is asked for without an order, just if the keys
ascend. -/
theorem ascending_iff (hrows : RowsIn s t.rows) : Value.Ascending t.keys ↔
    ∀ q : Query, q.order = none → ∀ rows, t.select s q = .ok rows →
      Record.InOrder s.primaryKey .ascending rows := by
  constructor
  · exact fun ascending q unordered rows h =>
      inOrder_of_ascending hrows ascending (sublist_of_select unordered h)
  · intro inOrder
    have all := inOrder (.first t.rows.length) rfl t.rows (select_first hrows)
    refine List.pairwise_map.mpr (all.imp_of_mem fun {a b} ha hb stand => ?_)
    rwa [valueAt_of_rowsIn hrows a ha, valueAt_of_rowsIn hrows b hb] at stand

/-- Greater numbers make greater keys, where keys are numbers. -/
theorem precedes_assigned {k : Kind} (hk : k = .int ∨ k = .uint) {n m : Nat} {v w : Value}
    (lt : n < m) (small : m ≤ Decimal.maxInt64) (hv : (assigned k n).coerce? k = some v)
    (hw : (assigned k m).coerce? k = some w) : v.precedes w = true := by
  have bound : m < 2 ^ 63 := by unfold Decimal.maxInt64 at small; omega
  have value : ∀ l ≤ m, (Int64.ofNat l).toInt = l := fun l hl =>
    Int64.toInt_ofNat_of_lt (Nat.lt_of_le_of_lt hl bound)
  rcases hk with rfl | rfl
  · obtain rfl : .int (Int64.ofNat n) = v := by simpa [assigned, Value.coerce?] using hv
    obtain rfl : .int (Int64.ofNat m) = w := by simpa [assigned, Value.coerce?] using hw
    simpa [Value.precedes, value n (by omega), value m (by omega)] using lt
  · obtain rfl : .uint (UInt64.ofNat n) = v := by
      simpa [assigned, Value.coerce?, value n (by omega)] using hv
    obtain rfl : .uint (UInt64.ofNat m) = w := by
      simpa [assigned, Value.coerce?, value m (by omega)] using hw
    have wide : ∀ l ≤ m, (UInt64.ofNat l).toNat = l := fun l hl =>
      UInt64.toNat_ofNat_of_lt' (Nat.lt_of_le_of_lt hl (Nat.lt_trans bound (by decide)))
    simpa [Value.precedes, wide n (by omega), wide m (by omega)] using lt

example : Direction.ascending.ordered (assigned .string 9) (assigned .string 10) = false := by
  decide

end Table

namespace Store

variable {writers : List Schema} {st st' : Store} {r stored : Record}

/-! ## Keys in the course of a run -/

/-- An update leaves the keys of a resource that is alone on its collection. -/
theorem keys_of_update_alone (alone : st.Alone s)
    (only : ∀ s' ∈ writers, s'.collection = s.collection → s' = s) (hr : r.schema ∈ writers)
    (ht : r.WellTyped) (h : Store.update r st = (.ok stored, st')) :
    (st'.table s.collection).keys = (st.table s.collection).keys := by
  obtain ⟨t, hupdate, tables⟩ := update_eq_ok h
  rw [tables]
  split
  · rename_i here
    obtain rfl := only _ hr here
    exact Table.keys_update alone.sound ht alone.keys hupdate
  · rfl

/-- **A call adds the key that it gives**, where no record brings one. -/
theorem keys_of_call (sound : ∀ s ∈ writers, s.Sound) (alone : st.Alone s)
    (only : ∀ s' ∈ writers, s'.collection = s.collection → s' = s) {call : Call}
    (byWriters : call.By writers)
    (wants : ∀ r, call = .insert r → r.schema = s → Table.wantsKey r = true) :
    ((call.perform st).table s.collection).keys
      = (st.table s.collection).keys ++ call.given s.collection st := by
  cases call with
  | insert r =>
    rcases answer : Store.insert r st with ⟨failure | stored, st'⟩
    · rw [Call.given_of_error answer, Call.perform_insert answer, change_eq_error answer,
        List.append_nil]
    · rw [Call.given_of_ok answer, Call.perform_insert answer,
        keys_of_insert sound byWriters.1 byWriters.2 answer]
      by_cases here : r.schema.collection = s.collection
      · rw [if_pos here, if_pos ⟨here, wants r rfl (only _ byWriters.1 here)⟩]
      · rw [if_neg here, if_neg fun both => here both.1]
  | update r =>
    refine Eq.trans ?_ (List.append_nil _).symm
    rcases answer : Store.update r st with ⟨failure | stored, st'⟩
    · rw [Call.perform_update answer, change_eq_error answer]
    · rw [Call.perform_update answer]
      exact keys_of_update_alone alone only byWriters.1 byWriters.2 answer
  | find s id => exact (List.append_nil _).symm
  | select s q => exact (List.append_nil _).symm

theorem keys_of_calls (hw : ∀ s ∈ writers, s.Resolved) (hs : s ∈ writers)
    (only : ∀ s' ∈ writers, s'.collection = s.collection → s' = s) :
    ∀ {calls : List Call} {st : Store}, Reachable writers st → (∀ call ∈ calls, call.By writers) →
      (∀ r, Call.insert r ∈ calls → r.schema = s → Table.wantsKey r = true) →
      ((calls.foldl Call.perform st).table s.collection).keys
        = (st.table s.collection).keys ++ givenKeys s.collection calls st
  | [], st, _, _, _ => (List.append_nil _).symm
  | call :: rest, st, hst, byWriters, wants => by
    obtain ⟨first, later⟩ := List.forall_mem_cons.mp byWriters
    have added := keys_of_call (fun s hs => (hw s hs).sound) (alone_of_run hw hst hs only) only
      first fun r same => wants r (by rw [same]; exact List.mem_cons_self)
    have reached : Reachable writers (call.perform st) := hst.tail ⟨call, first, rfl⟩
    have rest := keys_of_calls hw hs only reached later fun r hr =>
      wants r (List.mem_cons_of_mem _ hr)
    rw [List.foldl_cons, rest, added, givenKeys, List.append_assoc]

/-- **Whole numbers that the store assigns ascend**, as long as no record brings a key. -/
theorem ascending_of_run (hw : ∀ s ∈ writers, s.Resolved) (hs : s ∈ writers)
    (only : ∀ s' ∈ writers, s'.collection = s.collection → s' = s)
    (hk : s.keyField.kind = .int ∨ s.keyField.kind = .uint) {calls : List Call}
    (byWriters : ∀ call ∈ calls, call.By writers)
    (wants : ∀ r, Call.insert r ∈ calls → r.schema = s → Table.wantsKey r = true) :
    Value.Ascending ((calls.foldl Call.perform .empty).table s.collection).keys := by
  have kinds : ∀ s' ∈ writers, s'.collection = s.collection →
      s'.keyField.kind = s.keyField.kind := fun s' hs' same => by rw [only s' hs' same]
  obtain ⟨numbers, fit, rise, small⟩ :=
    numbers_of_run (fun s hs => (hw s hs).sound) kinds .empty byWriters
  rw [keys_of_calls hw hs only .refl byWriters wants]
  have rise : numbers.Pairwise (· < ·) := (List.pairwise_cons.mp rise).2
  have fit := (List.forall₂_and_left _ _).mpr ⟨small, fit⟩
  refine pairwise_of_forall₂ (fun n m v w lt hv hw => ?_) fit rise
  have below := Table.precedes_assigned hk lt hw.1 hv.2 hw.2
  show (v.precedes w || v.equals w) = true
  rw [below, Bool.true_or]

/-! ## Rows against the clause -/

/-- **In which order rows come.** The order clause of the statement for a query asks for the field
of the query's order in its direction, or for the key ascending where there is no order. Where there
is one, and its field is of a kind with an order, the rows that a store answers with stand as the
clause asks. Where there is none, they stand as they were inserted; so they always stand as the
clause asks just if the keys of the table ascend, which keys that are whole numbers do in every
state that calls lead to without a record that brings a key. -/
theorem select_in_order (hw : ∀ s ∈ writers, s.Resolved) (hst : Reachable writers st)
    (hs : s ∈ writers) (only : ∀ s' ∈ writers, s'.collection = s.collection → s' = s)
    {params : List (String × String)} {q : Query} (hq : Query.compile s params = .ok q) :
    (∃ i d, Statement.orderAt s q.order = some (i, d) ∧
      (∀ statement, Statement.select s q = .ok statement →
        (Statement.read? statement.text).bind Statement.order?
          = some ((s.fields.get i).columnName, d)) ∧
      ∀ rows, (Store.select s q st).1 = .ok rows →
        (q.order ≠ none → (s.fields.get i).kind.isOrdered = true → Record.InOrder i d rows) ∧
        (q.order = none → rows.Sublist (st.table s.collection).rows)) ∧
    (Value.Ascending (st.table s.collection).keys ↔
      ∀ p : Query, p.order = none → ∀ rows, (Store.select s p st).1 = .ok rows →
        Record.InOrder s.primaryKey .ascending rows) ∧
    (s.keyField.kind = .int ∨ s.keyField.kind = .uint →
      ∀ calls : List Call, (∀ call ∈ calls, call.By writers) →
        (∀ r, Call.insert r ∈ calls → r.schema = s → Table.wantsKey r = true) →
        Value.Ascending ((calls.foldl Call.perform .empty).table s.collection).keys) := by
  have own := rowsIn_of_run hw hst only
  refine ⟨?_, Table.ascending_iff own,
    fun hk calls byWriters wants => ascending_of_run hw hs only hk byWriters wants⟩
  cases ho : q.order with
  | none =>
    have asked : Statement.orderAt s q.order = some (s.primaryKey, .ascending) := by rw [ho]; rfl
    exact ⟨s.primaryKey, .ascending, rfl, fun _ => Statement.order?_of_select asked,
      fun rows h => ⟨fun ordered => absurd rfl ordered, fun _ => Table.sublist_of_select ho h⟩⟩
  | some o =>
    obtain ⟨i, hi⟩ := Option.isSome_iff_exists.mp ((Query.index?_of_compile hq).2 o ho)
    have leads : Statement.orderAt s (some o) = some (i, o.direction) := by
      simp [Statement.orderAt, hi]
    have asked : Statement.orderAt s q.order = some (i, o.direction) := by rw [ho]; exact leads
    refine ⟨i, o.direction, leads, fun _ => Statement.order?_of_select asked,
      fun rows h => ⟨fun _ kind => ?_, fun unordered => absurd unordered (by simp)⟩⟩
    obtain ⟨kept, sub, answered⟩ := Table.sublist_of_select_ordered ho hi own h
    exact (Table.inOrder_sortedBy kind o.direction fun r hr => own r (sub.subset hr)).sublist
      answered

theorem select_in_order_twoNotes :
    (∀ s ∈ [note], s.Resolved) ∧ Reachable [note] twoNotes ∧
    Query.compile note [("gte-id", "1"), ("q-order", "desc-id"), ("q-limit", "1")] = .ok lastNote ∧
    (∃ statement rows, Statement.select note lastNote = .ok statement ∧
      (Statement.read? statement.text).bind Statement.order? = some ("id", .descending) ∧
      (Store.select note lastNote twoNotes).1 = .ok rows ∧
      Record.InOrder note.primaryKey .descending rows) ∧
    Value.Ascending (([Call.insert (.blank note), Call.insert (.blank note)].foldl Call.perform
      .empty).table "note").keys := by
  have resolved : ∀ s ∈ [note], s.Resolved := fun s hs =>
    List.mem_singleton.mp hs ▸ resolved_note
  have only : ∀ s' ∈ [note], s'.collection = note.collection → s' = note :=
    fun s' hs' _ => List.mem_singleton.mp hs'
  obtain ⟨⟨i, d, asked, clause, stand⟩, -, rise⟩ := select_in_order resolved reachable_twoNotes
    (List.mem_singleton_self note) only compile_lastNote
  obtain ⟨rfl, rfl⟩ : note.primaryKey = i ∧ Direction.descending = d :=
    Prod.mk.inj (Option.some.inj asked)
  obtain ⟨statement, rendered⟩ : ∃ statement, Statement.select note lastNote = .ok statement :=
    ⟨_, rfl⟩
  obtain ⟨rows, answered⟩ : ∃ rows, (Store.select note lastNote twoNotes).1 = .ok rows := ⟨_, rfl⟩
  refine ⟨resolved, reachable_twoNotes, compile_lastNote, ⟨statement, rows, rendered,
    clause statement rendered, answered, (stand rows answered).1 (by simp [lastNote]) rfl⟩, ?_⟩
  refine rise (.inl rfl) _ (fun call hcall => ?_) fun r hr _ => ?_
  · rcases List.mem_pair.mp hcall with rfl | rfl <;>
      exact ⟨List.mem_singleton_self note, Record.wellTyped_blank note⟩
  · rcases List.mem_pair.mp hr with same | same <;> cases same <;> rfl

/-- **Without an order asked for, rows may stand in another one**: two notes come as they were
inserted, and not by their keys as the clause asks. -/
theorem select_out_of_order :
    note.Resolved ∧ Reachable [note] twoNotes ∧ Query.compile note [] = .ok .blank ∧
    ∃ statement rows, Statement.select note .blank = .ok statement ∧
      (Statement.read? statement.text).bind Statement.order? = some ("id", .ascending) ∧
      (Store.select note .blank twoNotes).1 = .ok rows ∧ rows.map (·.key) = [.int 3, .int 1] ∧
      ¬ Record.InOrder note.primaryKey .ascending rows := by
  obtain ⟨statement, rendered⟩ : ∃ statement, Statement.select note .blank = .ok statement :=
    ⟨_, rfl⟩
  have clause := Statement.order?_of_select (q := .blank) (i := note.primaryKey) rfl rendered
  refine ⟨resolved_note, reachable_twoNotes, by cbv, statement, _, rendered, clause, rfl, rfl, ?_⟩
  intro inOrder
  have behind := List.rel_of_pairwise_cons inOrder (List.mem_singleton_self _)
  exact absurd behind (by decide)

end Store

end Registrar
