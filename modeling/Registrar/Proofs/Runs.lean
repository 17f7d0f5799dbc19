import Mathlib.Logic.Relation
import Registrar.Proofs.Tables
import Registrar.Store.Basic

/-!
# Runs of a store

A store is called by many, and each call is one step. A step either leaves the store as it was, or
is an insertion or an update that succeeded (`step_cases`); everything that holds of every
reachable store is shown of these two.

* `rowsOf_of_run`: every row is a well-typed record of a resource of its collection.
* `distinct_of_run`: where the resources of a collection have keys of one kind, no two rows have
  the same key.
* `keys_only_grow`: the keys of a collection only ever grow at their end, by the one key of an
  insertion.
-/

namespace Registrar.Store

open Relation (ReflTransGen)

/-! ## Calls and steps -/

/-- A call of a store. -/
inductive Call where
  | insert (r : Record)
  | update (r : Record)
  | find (s : Schema) (id : Value)
  | select (s : Schema) (q : Query)

namespace Call

/-- The store after a call. -/
def perform (st : Store) : Call → Store
  | .insert r => (Store.insert r st).2
  | .update r => (Store.update r st).2
  | .find s id => (Store.find s id st).2
  | .select s q => (Store.select s q st).2

/-- A call that writes nothing but a record of one of some resources. The record is well typed, as
every record is that is blank, read from a document, set, merged, flagged or stored. -/
def By (writers : List Schema) : Call → Prop
  | .insert r => r.schema ∈ writers ∧ r.WellTyped
  | .update r => r.schema ∈ writers ∧ r.WellTyped
  | .find _ _ => True
  | .select _ _ => True

end Call

/-- One step of a store that some resources write to. -/
def Step (writers : List Schema) (st st' : Store) : Prop :=
  ∃ c : Call, c.By writers ∧ st' = c.perform st

/-- A store that is reached from the empty one. -/
def Reachable (writers : List Schema) (st : Store) : Prop := ReflTransGen (Step writers) .empty st

/-- Resources that share a collection have keys of one kind. -/
def OneKind (writers : List Schema) : Prop :=
  ∀ s ∈ writers, ∀ s' ∈ writers, s.collection = s'.collection →
    s.keyField.kind = s'.keyField.kind

variable {writers : List Schema} {st st' : Store} {r stored : Record} {c : String}

theorem reachable_of_calls {calls : List Call} (h : ∀ call ∈ calls, call.By writers) :
    Reachable writers (calls.foldl Call.perform .empty) := by
  have run : ∀ (calls : List Call) (st : Store), (∀ call ∈ calls, call.By writers) →
      ReflTransGen (Step writers) st (calls.foldl Call.perform st) := by
    intro calls
    induction calls with
    | nil => exact fun st _ => .refl
    | cons call rest ih =>
      intro st h
      exact .head ⟨call, h call List.mem_cons_self, rfl⟩
        (ih _ fun call' h' => h call' (List.mem_cons_of_mem _ h'))
  exact run calls .empty h

/-! ## What an action does -/

theorem change_eq_ok {α : Type} {f : Table → Except Failure (α × Table)} {a : α}
    (h : change c f st = (.ok a, st')) :
    ∃ t, f (st.table c) = .ok (a, t) ∧ ∀ d, st'.table d = if c = d then t else st.table d := by
  unfold change at h
  split at h
  · rename_i a' t hf
    obtain ⟨ha, rfl⟩ := Prod.mk.inj h
    obtain rfl := Except.ok.inj ha
    exact ⟨t, hf, fun d => st.table_putTable c d t⟩
  · exact absurd (Prod.mk.inj h).1 (by simp)

theorem change_eq_error {α : Type} {f : Table → Except Failure (α × Table)} {failure : Failure}
    (h : change c f st = (.error failure, st')) : st' = st := by
  unfold change at h
  split at h
  · exact absurd (Prod.mk.inj h).1 (by simp)
  · exact (Prod.mk.inj h).2.symm

theorem change_of_ok {α : Type} {f : Table → Except Failure (α × Table)} {a : α} {t : Table}
    (h : f (st.table c) = .ok (a, t)) : change c f st = (.ok a, st.putTable c t) := by
  unfold change
  rw [h]

theorem change_of_error {α : Type} {f : Table → Except Failure (α × Table)} {failure : Failure}
    (h : f (st.table c) = .error failure) : change c f st = (.error failure, st) := by
  unfold change
  rw [h]

theorem insert_eq_ok (h : Store.insert r st = (.ok stored, st')) :
    ∃ t, (st.table r.schema.collection).insert r = .ok (stored, t) ∧
      ∀ d, st'.table d = if r.schema.collection = d then t else st.table d :=
  change_eq_ok h

theorem update_eq_ok (h : Store.update r st = (.ok stored, st')) :
    ∃ t, (st.table r.schema.collection).update r = .ok (stored, t) ∧
      ∀ d, st'.table d = if r.schema.collection = d then t else st.table d :=
  change_eq_ok h

/-- An action that changes nothing has succeeded if the store is not as it was. -/
theorem change_cases {α : Type} (c : String) (f : Table → Except Failure (α × Table)) (st : Store) :
    (change c f st).2 = st ∨ ∃ a, change c f st = (.ok a, (change c f st).2) := by
  unfold change
  split
  · exact .inr ⟨_, rfl⟩
  · exact .inl rfl

/-- **What a step can do**: nothing, add a record, or write one over a row. -/
theorem step_cases (h : Step writers st st') :
    st' = st ∨ ∃ r stored, r.schema ∈ writers ∧ r.WellTyped ∧
      (Store.insert r st = (.ok stored, st') ∨ Store.update r st = (.ok stored, st')) := by
  obtain ⟨call, by_writers, rfl⟩ := h
  cases call with
  | insert r =>
    rcases change_cases r.schema.collection (·.insert r) st with unchanged | ⟨stored, ok⟩
    · exact .inl unchanged
    · exact .inr ⟨r, stored, by_writers.1, by_writers.2, .inl ok⟩
  | update r =>
    rcases change_cases r.schema.collection (·.update r) st with unchanged | ⟨stored, ok⟩
    · exact .inl unchanged
    · exact .inr ⟨r, stored, by_writers.1, by_writers.2, .inr ok⟩
  | find s id => exact .inl rfl
  | select s q => exact .inl rfl

/-! ## Rows -/

/-- Every row is a record of a resource that writes to its collection, as it is stored. -/
def RowsOf (writers : List Schema) (st : Store) : Prop :=
  ∀ c, ∀ r ∈ (st.table c).rows,
    r.schema ∈ writers ∧ r.schema.collection = c ∧ r.WellTyped ∧ r.Settled

theorem rowsOf_insert (sound : ∀ s ∈ writers, s.Sound) (hr : r.schema ∈ writers)
    (ht : r.WellTyped) (h : Store.insert r st = (.ok stored, st')) (hst : RowsOf writers st) :
    RowsOf writers st' := by
  obtain ⟨t, hinsert, tables⟩ := insert_eq_ok h
  obtain ⟨schema, typed, settled, rows, -⟩ := Table.insert_spec (sound _ hr) ht hinsert
  intro c q hq
  rw [tables] at hq
  split at hq
  · rename_i same
    rw [rows, List.mem_append, List.mem_singleton] at hq
    rcases hq with hq | rfl
    · exact same ▸ hst _ q hq
    · rw [schema]
      exact ⟨hr, same, typed, settled⟩
  · exact hst c q hq

theorem rowsOf_update (hr : r.schema ∈ writers) (ht : r.WellTyped)
    (h : Store.update r st = (.ok stored, st')) (hst : RowsOf writers st) : RowsOf writers st' := by
  obtain ⟨t, hupdate, tables⟩ := update_eq_ok h
  obtain ⟨rfl, i, old, -, rows⟩ := Table.update_spec hupdate
  intro c q hq
  rw [tables] at hq
  split at hq
  · rename_i same
    rw [rows] at hq
    rcases List.mem_or_eq_of_mem_set hq with hq | rfl
    · exact same ▸ hst _ q hq
    · exact ⟨hr, same, ht.stored, r.settled_stored⟩
  · exact hst c q hq

theorem rowsOf_step (sound : ∀ s ∈ writers, s.Sound) (h : Step writers st st')
    (hst : RowsOf writers st) : RowsOf writers st' := by
  rcases step_cases h with rfl | ⟨r, stored, hr, ht, h | h⟩
  · exact hst
  · exact rowsOf_insert sound hr ht h hst
  · exact rowsOf_update hr ht h hst

/-- **Every row of a reachable store** is a well-typed record of a resource of its collection. -/
theorem rowsOf_of_run (sound : ∀ s ∈ writers, s.Sound) (h : Reachable writers st) :
    RowsOf writers st := by
  induction h with
  | refl => exact fun c r hr => absurd hr List.not_mem_nil
  | tail _ step ih => exact rowsOf_step sound step ih

/-! ## Keys -/

/-- No two of some keys are the same. -/
def Distinct (keys : List Value) : Prop := keys.Pairwise fun v w => v ≠ w ∧ v.sameKey w = false

/-- Among keys that are apart a row is the first one with its key. -/
theorem Distinct.first {t : Table} {i : Nat} {row : Record} (h : Distinct t.keys)
    (hrow : t.rows[i]? = some row) (self : row.key.sameKey row.key = true) :
    Table.FirstWith t.rows row.key i row := by
  refine ⟨hrow, self, fun j q hj hq => ?_⟩
  have later : t.keys[i]? = some row.key := by rw [t.getElem?_keys, hrow]; rfl
  have earlier : t.keys[j]? = some q.key := by rw [t.getElem?_keys, hq]; rfl
  obtain ⟨hi, later⟩ := List.getElem?_eq_some_iff.mp later
  obtain ⟨hj', earlier⟩ := List.getElem?_eq_some_iff.mp earlier
  rw [← later, ← earlier]
  exact (List.pairwise_iff_getElem.mp h j i hj' hi hj).2

/-- An insertion beside keys of its kind keeps keys apart. -/
theorem Distinct.insert {t t' : Table} (hs : r.schema.Sound) (ht : r.WellTyped)
    (hkind : ∀ q ∈ t.rows, q.key.HasKind r.schema.keyField.kind)
    (h : t.insert r = .ok (stored, t')) (hd : Distinct t.keys) : Distinct t'.keys := by
  obtain ⟨schema, typed, -, -, fresh⟩ := Table.insert_spec hs ht h
  rw [Table.keys_insert hs ht h]
  refine List.pairwise_append.mpr ⟨hd, List.pairwise_singleton _ _, fun v hv w hw => ?_⟩
  obtain rfl := List.mem_singleton.mp hw
  obtain ⟨q, hq, rfl⟩ := List.mem_map.mp hv
  have apart := fresh q hq (hkind q hq)
  refine ⟨fun equal => ?_, apart⟩
  have kind : stored.key.HasKind r.schema.keyField.kind := schema ▸ typed.key
  rw [equal, Value.sameKey_self hs.keyKind kind] at apart
  exact absurd apart (by simp)

/-- Every row that `r` is stored beside has a key of its kind. -/
theorem hasKind_key (one : OneKind writers) (hst : RowsOf writers st) (hr : r.schema ∈ writers) :
    ∀ q ∈ (st.table r.schema.collection).rows, q.key.HasKind r.schema.keyField.kind := by
  intro q hq
  obtain ⟨schema, collection, typed, -⟩ := hst _ q hq
  rw [← one _ schema _ hr collection]
  exact typed.key

theorem keys_of_insert (sound : ∀ s ∈ writers, s.Sound) (hr : r.schema ∈ writers)
    (ht : r.WellTyped) (h : Store.insert r st = (.ok stored, st')) (c : String) :
    (st'.table c).keys =
      (st.table c).keys ++ if r.schema.collection = c then [stored.key] else [] := by
  obtain ⟨t, hinsert, tables⟩ := insert_eq_ok h
  rw [tables]
  split
  · rename_i same
    rw [← same]
    exact Table.keys_insert (sound _ hr) ht hinsert
  · rw [List.append_nil]

theorem keys_of_update (sound : ∀ s ∈ writers, s.Sound) (one : OneKind writers)
    (hst : RowsOf writers st) (hr : r.schema ∈ writers) (ht : r.WellTyped)
    (h : Store.update r st = (.ok stored, st')) (c : String) :
    (st'.table c).keys = (st.table c).keys := by
  obtain ⟨t, hupdate, tables⟩ := update_eq_ok h
  rw [tables]
  split
  · rename_i same
    rw [← same]
    exact Table.keys_update (sound _ hr) ht (hasKind_key one hst hr) hupdate
  · rfl

theorem distinct_of_insert (sound : ∀ s ∈ writers, s.Sound) (one : OneKind writers)
    (hst : RowsOf writers st) (hr : r.schema ∈ writers) (ht : r.WellTyped)
    (h : Store.insert r st = (.ok stored, st')) (c : String)
    (hd : Distinct (st.table c).keys) : Distinct (st'.table c).keys := by
  obtain ⟨t, hinsert, tables⟩ := insert_eq_ok h
  rw [tables]
  split
  · rename_i same
    subst same
    exact hd.insert (sound _ hr) ht (hasKind_key one hst hr) hinsert
  · exact hd

theorem distinct_step (sound : ∀ s ∈ writers, s.Sound) (one : OneKind writers)
    (hst : RowsOf writers st) (h : Step writers st st') (c : String)
    (hd : Distinct (st.table c).keys) : Distinct (st'.table c).keys := by
  rcases step_cases h with rfl | ⟨r, stored, hr, ht, h | h⟩
  · exact hd
  · exact distinct_of_insert sound one hst hr ht h c hd
  · rw [keys_of_update sound one hst hr ht h]
    exact hd

/-- **No two rows have the same key**, where the resources of a collection have keys of one kind. -/
theorem distinct_of_run (sound : ∀ s ∈ writers, s.Sound) (one : OneKind writers)
    (h : Reachable writers st) (c : String) : Distinct (st.table c).keys := by
  induction h with
  | refl => exact List.Pairwise.nil
  | tail before step ih => exact distinct_step sound one (rowsOf_of_run sound before) step c ih

theorem prefix_step (sound : ∀ s ∈ writers, s.Sound) (one : OneKind writers)
    (hst : RowsOf writers st) (h : Step writers st st') (c : String) :
    (st.table c).keys <+: (st'.table c).keys := by
  rcases step_cases h with rfl | ⟨r, stored, hr, ht, h | h⟩
  · exact List.prefix_rfl
  · rw [keys_of_insert sound hr ht h]
    exact List.prefix_append _ _
  · exact ⟨[], by rw [keys_of_update sound one hst hr ht h, List.append_nil]⟩

theorem prefix_of_run (sound : ∀ s ∈ writers, s.Sound) (one : OneKind writers)
    (hst : Reachable writers st) (h : ReflTransGen (Step writers) st st') (c : String) :
    (st.table c).keys <+: (st'.table c).keys := by
  induction h with
  | refl => exact List.prefix_rfl
  | tail run step ih =>
    exact ih.trans (prefix_step sound one (rowsOf_of_run sound (hst.trans run)) step c)

/-- **The keys of a collection only ever grow at their end.** Whatever calls were made of a store,
and whoever made them, no two rows of a collection have the same key; later keys come behind the
ones that are there; an insertion that succeeds adds the one key of the record it gives back, to
its own collection; no other call changes a key. -/
theorem keys_only_grow {d : Descriptor} {reg : Registry} (hreg : d.resolve = .ok reg)
    (hw : ∀ s ∈ writers, s ∈ reg.schemas) (one : OneKind writers) (hst : Reachable writers st)
    (c : String) :
    Distinct (st.table c).keys ∧
    (∀ st', ReflTransGen (Step writers) st st' → (st.table c).keys <+: (st'.table c).keys) ∧
    (∀ r stored st', r.schema ∈ writers → r.WellTyped → Store.insert r st = (.ok stored, st') →
      (st'.table c).keys =
        (st.table c).keys ++ if r.schema.collection = c then [stored.key] else []) ∧
    (∀ r failure st', Store.insert r st = (.error failure, st') → st' = st) ∧
    (∀ r answer st', r.schema ∈ writers → r.WellTyped → Store.update r st = (answer, st') →
      (st'.table c).keys = (st.table c).keys) ∧
    (∀ s id, (Store.find s id st).2 = st) ∧ ∀ s q, (Store.select s q st).2 = st := by
  have sound : ∀ s ∈ writers, s.Sound := fun s hs =>
    (Registry.sound_of_resolve hreg).schemas s (hw s hs)
  have rows := rowsOf_of_run sound hst
  refine ⟨distinct_of_run sound one hst c, fun st' run => prefix_of_run sound one hst run c,
    fun r stored st' hr ht h => keys_of_insert sound hr ht h c,
    fun r failure st' h => change_eq_error h, fun r answer st' hr ht h => ?_, fun _ _ => rfl,
    fun _ _ => rfl⟩
  cases answer with
  | error failure => rw [change_eq_error h]
  | ok stored => exact keys_of_update sound one rows hr ht h c

/-- Two notes, the first one with a key of its own. -/
def twoNotes : Store :=
  [Call.insert ((Record.blank note).put note.primaryKey (.int 3)),
    Call.insert (.blank note)].foldl Call.perform .empty

theorem reachable_twoNotes : Reachable [note] twoNotes := by
  refine reachable_of_calls fun call h => ?_
  rcases List.mem_pair.mp h with rfl | rfl
  · exact ⟨List.mem_singleton_self _, (Record.wellTyped_blank note).put trivial⟩
  · exact ⟨List.mem_singleton_self _, Record.wellTyped_blank note⟩

theorem keys_only_grow_twoNotes :
    notes.resolve = .ok ⟨[note]⟩ ∧ OneKind [note] ∧ Reachable [note] twoNotes ∧
    Distinct (twoNotes.table "note").keys ∧
    ((Store.insert (.blank note) twoNotes).2.table "note").keys = [.int 3, .int 1, .int 2] := by
  have one : OneKind [note] := by
    intro s hs s' hs' _
    rw [List.mem_singleton.mp hs, List.mem_singleton.mp hs']
  obtain ⟨distinct, -, grows, -⟩ := keys_only_grow notes_resolve (fun s hs => hs) one
    reachable_twoNotes "note"
  refine ⟨notes_resolve, one, reachable_twoNotes, distinct, ?_⟩
  exact grows (.blank note) _ _ (List.mem_singleton_self _) (Record.wellTyped_blank note) rfl

end Registrar.Store
