import Registrar.Proofs.Failures
import Registrar.Proofs.Runs

/-!
# A store is a map

A row is found by the first key that is the same as the one looked for. Where a resource is alone on
its collection all keys there are of one kind, so the same key is an equal one and no key is met
twice: what is written under a key is what is found under it, and what is found under any other key
is what was found before.

* `Table.find?_replace_self`, `find?_replace_of_ne`: finding after a row was written over.
* `Table.find?_append_self`, `find?_append_of_ne`: finding after a row was added.
* `Store.insert_puts`, `update_puts`: what an insertion and an update put under a key.
* `Store.insert_error_iff`, `update_error_iff`: when they fail.
* `Store.acts_as_map`: all of it, in every reachable state.
-/

namespace Registrar

namespace Table

variable {t : Table} {rows : List Record} {id : Value} {stored : Record} {p : Record → Bool}
  {k : Kind}

/-! ## Finding after a write -/

/-- Among keys of one kind, a row has a key iff its key is that one. -/
theorem holds_iff (hk : Descriptor.isKeyKind k = true) (hid : id.HasKind k)
    (hkind : ∀ q ∈ t.rows, q.key.HasKind k) :
    t.holds id = true ↔ ∃ row ∈ t.rows, row.key = id := by
  unfold holds
  rw [List.any_eq_true]
  refine exists_congr fun row => and_congr_right fun hrow => ?_
  exact Value.sameKey_iff_eq hk (hkind row hrow) hid

/-- A row that is added last is found if no row before it is. -/
theorem find?_append_self (fresh : ∀ q ∈ rows, p q = false) (found : p stored = true) :
    (rows ++ [stored]).find? p = some stored := by
  have none : rows.find? p = none := by
    rw [List.find?_eq_none]
    intro q hq
    simp [fresh q hq]
  rw [List.find?_append, none]
  simp [found]

/-- What does not find the row that is added finds what it found. -/
theorem find?_append_of_ne (missed : p stored = false) :
    (rows ++ [stored]).find? p = rows.find? p := by
  rw [List.find?_append]
  simp [missed]

/-- A row that is written over the first one with a key is found by that key. -/
theorem find?_replace_self (same : stored.key.sameKey id = true) : ∀ {rows : List Record},
    (∃ q ∈ rows, q.key.sameKey id = true) →
      (replace id stored rows).find? (fun q => q.key.sameKey id) = some stored
  | [], h => by simp at h
  | q :: rest, h => by
    unfold replace
    split
    · exact List.find?_cons_of_pos same
    · rename_i other
      rw [List.find?_cons_of_neg (by simpa using other)]
      refine find?_replace_self same ?_
      obtain ⟨q', hq', held⟩ := h
      rcases List.mem_cons.mp hq' with rfl | hq'
      · exact absurd held other
      · exact ⟨q', hq', held⟩

/-- What finds neither the row that is written nor the one it is written over finds what it
found. -/
theorem find?_replace_of_ne (missed : p stored = false) : ∀ {rows : List Record},
    (∀ q ∈ rows, q.key.sameKey id = true → p q = false) →
      (replace id stored rows).find? p = rows.find? p
  | [], _ => rfl
  | q :: rest, h => by
    obtain ⟨hq, hrest⟩ := List.forall_mem_cons.mp h
    unfold replace
    split
    · rename_i here
      rw [List.find?_cons_of_neg (by simp [missed]), List.find?_cons_of_neg (by simp [hq here])]
    · cases hp : p q with
      | true => rw [List.find?_cons_of_pos hp, List.find?_cons_of_pos hp]
      | false =>
        rw [List.find?_cons_of_neg (by simp [hp]), List.find?_cons_of_neg (by simp [hp])]
        exact find?_replace_of_ne missed hrest

end Table

namespace Store

variable {writers : List Schema} {st st' : Store} {r stored : Record} {s : Schema}

/-! ## What is put under a key -/

/-- A row of the collection of a resource has a key. -/
def HasKey (st : Store) (s : Schema) (id : Value) : Prop :=
  ∃ row ∈ (st.table s.collection).rows, row.key = id

/-- A record was put under its key: that key finds it, every other key of the kind finds what it
found before, and every other collection is as it was. -/
structure Puts (s : Schema) (stored : Record) (st st' : Store) : Prop where
  found : (Store.find s stored.key st').1 = .ok (some stored)
  others : ∀ id : Value, id.HasKind s.keyField.kind → id ≠ stored.key →
    (Store.find s id st').1 = (Store.find s id st).1
  elsewhere : ∀ c, c ≠ s.collection → st'.table c = st.table c

theorem find_fst (s : Schema) (id : Value) (st : Store) :
    (Store.find s id st).1 = .ok ((st.table s.collection).find? id) := rfl

/-- A sound resource whose collection holds only keys of its kind, as it does where the resource is
alone on the collection. -/
structure Alone (st : Store) (s : Schema) : Prop where
  sound : s.Sound
  keys : ∀ q ∈ (st.table s.collection).rows, q.key.HasKind s.keyField.kind

theorem alone_of_run (hw : ∀ s ∈ writers, s.Resolved) (hst : Reachable writers st)
    (hs : s ∈ writers) (alone : ∀ s' ∈ writers, s'.collection = s.collection → s' = s) :
    st.Alone s := by
  have sound : ∀ s ∈ writers, s.Sound := fun s hs => (hw s hs).sound
  refine ⟨sound s hs, fun q hq => ?_⟩
  obtain ⟨schema, collection, typed, -⟩ := rowsOf_of_run sound hst _ q hq
  have same : q.schema = s := alone _ schema collection
  rw [← same]
  exact typed.key

/-- One step keeps the keys of a resource that is alone on its collection apart. -/
theorem distinct_step_alone (alone : st.Alone s)
    (only : ∀ s' ∈ writers, s'.collection = s.collection → s' = s) (h : Step writers st st')
    (hd : Distinct (st.table s.collection).keys) : Distinct (st'.table s.collection).keys := by
  rcases step_cases h with rfl | ⟨r, stored, hr, ht, h | h⟩
  · exact hd
  · obtain ⟨t, hinsert, tables⟩ := insert_eq_ok h
    rw [tables]
    split
    · rename_i here
      obtain rfl := only _ hr here
      exact hd.insert alone.sound ht alone.keys hinsert
    · exact hd
  · obtain ⟨t, hupdate, tables⟩ := update_eq_ok h
    rw [tables]
    split
    · rename_i here
      obtain rfl := only _ hr here
      rw [Table.keys_update alone.sound ht alone.keys hupdate]
      exact hd
    · exact hd

/-- **No two rows have the same key**, where a resource is alone on its collection. -/
theorem distinct_of_run_alone (hw : ∀ s ∈ writers, s.Resolved) (hs : s ∈ writers)
    (only : ∀ s' ∈ writers, s'.collection = s.collection → s' = s) (hst : Reachable writers st) :
    Distinct (st.table s.collection).keys := by
  induction hst with
  | refl => exact List.Pairwise.nil
  | tail run step ih => exact distinct_step_alone (alone_of_run hw run hs only) only step ih

/-- **An insertion puts what it gives back** under a key that no row had. -/
theorem insert_puts (alone : st.Alone r.schema) (ht : r.WellTyped)
    (h : Store.insert r st = (.ok stored, st')) :
    ¬ st.HasKey r.schema stored.key ∧ Puts r.schema stored st st' := by
  obtain ⟨t, hinsert, tables⟩ := insert_eq_ok h
  obtain ⟨schema, typed, -, rows, fresh⟩ := Table.insert_spec alone.sound ht hinsert
  have kind : stored.key.HasKind r.schema.keyField.kind := schema ▸ typed.key
  have apart : ∀ q ∈ (st.table r.schema.collection).rows, q.key.sameKey stored.key = false :=
    fun q hq => fresh q hq (alone.keys q hq)
  have self := Value.sameKey_self alone.sound.keyKind kind
  refine ⟨?_, ?_, fun id hid other => ?_, fun c other => ?_⟩
  · rintro ⟨row, hrow, key⟩
    have missed := apart row hrow
    rw [key, self] at missed
    exact absurd missed (by simp)
  · rw [find_fst, tables, if_pos rfl, Table.find?, rows, Table.find?_append_self apart self]
  · have missed : stored.key.sameKey id = false := by
      by_contra same
      have equal := (Value.sameKey_iff_eq alone.sound.keyKind kind hid).mp
        (eq_true_of_ne_false same)
      exact other equal.symm
    rw [find_fst, find_fst, tables, if_pos rfl, Table.find?, rows, Table.find?_append_of_ne missed]
    rfl
  · rw [tables, if_neg (Ne.symm other)]

/-- What an insertion gives back is the record, with a key if it is given one. -/
theorem insert_stores (h : Store.insert r st = (.ok stored, st')) :
    (Table.wantsKey r = false ∧ stored = r.stored) ∨
      (Table.wantsKey r = true ∧ ∃ w, stored = (r.put r.schema.primaryKey w).stored) := by
  obtain ⟨t, hinsert, -⟩ := insert_eq_ok h
  rcases Table.insert_cases hinsert with ⟨wants, -, rfl, -⟩ | ⟨wants, n, w, -, -, rfl, -⟩
  · exact .inl ⟨wants, rfl⟩
  · exact .inr ⟨wants, w, rfl⟩

/-- **An insertion fails** where the record brings a key that a row has. The store stops where a
key is wanted and none is left. -/
theorem insert_error_iff (alone : st.Alone r.schema) (ht : r.WellTyped) {failure : Failure} :
    (Store.insert r st).1 = .error failure ↔
      (Table.wantsKey r = false ∧ st.HasKey r.schema r.key ∧
        failure = .badRequest (.duplicateKey r.schema.collection r.key)) ∨
      (Table.wantsKey r = true ∧
        (st.table r.schema.collection).nextNumber? r.schema.keyField.kind = none ∧
        failure = .crash .keysExhausted) := by
  have held := Table.holds_iff alone.sound.keyKind ht.key alone.keys
  unfold Store.insert
  cases wants : Table.wantsKey r with
  | false =>
    have inserted := Table.insert_of_not_wantsKey wants (t := st.table r.schema.collection)
    by_cases has : (st.table r.schema.collection).holds r.key = true
    · rw [if_pos has] at inserted
      rw [change_of_error inserted]
      have key : st.HasKey r.schema r.key := held.mp has
      simp [key, eq_comm]
    · rw [if_neg has] at inserted
      rw [change_of_ok inserted]
      have key : ¬ st.HasKey r.schema r.key := fun key => has (held.mpr key)
      simp [key]
  | true =>
    rcases Table.insert_of_wantsKey alone.sound wants (t := st.table r.schema.collection) with
      ⟨none, failed⟩ | ⟨n, w, some, -, ok⟩
    · rw [change_of_error failed]
      simp [none, eq_comm]
    · rw [change_of_ok ok]
      simp [some]

/-- **An update puts what it gives back** under the key of the record. -/
theorem update_puts (alone : st.Alone r.schema) (ht : r.WellTyped)
    (h : Store.update r st = (.ok stored, st')) :
    stored = r.stored ∧ stored.key = r.key ∧ Puts r.schema stored st st' := by
  obtain ⟨t, hupdate, tables⟩ := update_eq_ok h
  unfold Table.update at hupdate
  split at hupdate
  · rename_i held
    obtain ⟨rfl, rfl⟩ := Prod.mk.inj (Except.ok.inj hupdate)
    have key : r.stored.key = r.key := Record.key_stored alone.sound.keyPersisted
    have self := Value.sameKey_self alone.sound.keyKind ht.key
    refine ⟨rfl, key, ?_, fun id hid other => ?_, fun c other => ?_⟩
    · rw [find_fst, tables, if_pos rfl, key]
      exact congrArg Except.ok (Table.find?_replace_self (by rw [key]; exact self)
        (List.any_eq_true.mp held))
    · rw [key] at other
      have missed : r.key.sameKey id = false := by
        by_contra same
        have equal :=
          (Value.sameKey_iff_eq alone.sound.keyKind ht.key hid).mp (eq_true_of_ne_false same)
        exact other equal.symm
      rw [find_fst, find_fst, tables, if_pos rfl]
      refine congrArg Except.ok (Table.find?_replace_of_ne (by rw [key]; exact missed) ?_)
      intro q hq same
      -- the row that is written over has the key of the record
      have equal := (Value.sameKey_iff_eq alone.sound.keyKind (alone.keys q hq) ht.key).mp same
      rw [equal]
      exact missed
    · rw [tables, if_neg (Ne.symm other)]
  · exact absurd hupdate (by simp)

/-- **An update fails** where no row has the key of the record. -/
theorem update_error_iff (alone : st.Alone r.schema) (ht : r.WellTyped) {failure : Failure} :
    (Store.update r st).1 = .error failure ↔
      ¬ st.HasKey r.schema r.key ∧ failure = .notFound (.row r.schema.collection) := by
  have held := Table.holds_iff alone.sound.keyKind ht.key alone.keys
  unfold Store.update change Table.update
  by_cases has : (st.table r.schema.collection).holds r.key = true
  · have key : st.HasKey r.schema r.key := held.mp has
    simp [has, key]
  · have key : ¬ st.HasKey r.schema r.key := fun key => has (held.mpr key)
    simp [has, key, eq_comm]

end Store

/-! ## Numbers that are taken -/

namespace Table

variable {t t' : Table} {r stored : Record} {k : Kind}

/-- Every number that was counted is the key of a row. -/
def Counted (t : Table) (k : Kind) : Prop :=
  ∀ n, 0 < n → n ≤ t.counter → t.holds (assigned k n) = true

theorem counted_empty (k : Kind) : empty.Counted k := by
  intro n above within
  have none : n ≤ 0 := within
  omega

/-- The numbers before the first one that is free are taken. -/
theorem holds_of_lt_freeFrom? : ∀ {span n m : Nat}, t.freeFrom? k span n = some m →
    ∀ l, n < l → l < m → t.holds (assigned k l) = true
  | 0, _, _, h, _, _, _ => absurd h (by simp [freeFrom?])
  | span + 1, n, m, h, l, above, below => by
    unfold freeFrom? at h
    split at h
    · rename_i taken
      by_cases next : l = n + 1
      · rw [next]
        exact taken
      · exact holds_of_lt_freeFrom? h l (by omega) below
    · obtain rfl := Option.some.inj h
      omega

/-- A row that is added takes nothing away. -/
theorem holds_append {id : Value} (rows : t'.rows = t.rows ++ [stored]) (h : t.holds id = true) :
    t'.holds id = true := by
  unfold holds at h ⊢
  rw [rows, List.any_append, h]
  rfl

theorem counted_insert (hs : r.schema.Sound) (h : t.insert r = .ok (stored, t'))
    (counted : t.Counted r.schema.keyField.kind) : t'.Counted r.schema.keyField.kind := by
  intro n above within
  rcases insert_cases h with ⟨-, -, -, rfl⟩ | ⟨-, m, w, free, fits, rfl, rfl⟩
  · exact holds_append rfl (counted n above within)
  · -- a number is the one that was assigned, one that was passed over, or one counted before
    by_cases last : n = m
    · have persisted : (r.put r.schema.primaryKey w).schema.keyField.isPersisted = true :=
        hs.keyPersisted
      have same := (sameKey_of_nextNumber? hs.keyKind free fits).1
      unfold holds
      rw [List.any_append, last]
      simp [Record.key_stored persisted, r.key_put, same]
    · refine holds_append rfl ?_
      by_cases before : n ≤ t.counter
      · exact counted n above before
      · exact holds_of_lt_freeFrom? free n (by omega) (Nat.lt_of_le_of_ne within last)

theorem counted_update (hs : r.schema.Sound) (hr : r.WellTyped)
    (hkind : ∀ q ∈ t.rows, q.key.HasKind r.schema.keyField.kind)
    (h : t.update r = .ok (stored, t')) (counted : t.Counted k) : t'.Counted k := by
  have keys := keys_update hs hr hkind h
  have counter : t'.counter = t.counter := by
    unfold update at h
    split at h
    · obtain ⟨-, rfl⟩ := Prod.mk.inj (Except.ok.inj h)
      rfl
    · exact absurd h (by simp)
  intro n above within
  rw [holds_eq_any_keys, keys, ← holds_eq_any_keys]
  exact counted n above (counter ▸ within)

/-- Every number is the key of a row. -/
def Exhausted (t : Table) (k : Kind) : Prop :=
  ∀ n, 0 < n → n ≤ Decimal.maxInt64 → t.holds (assigned k n) = true

/-- Where what was counted is taken, no number is free only if all are taken. -/
theorem nextNumber?_eq_none_iff (counted : t.Counted k) :
    t.nextNumber? k = none ↔ t.Exhausted k := by
  constructor
  · intro none n above within
    by_cases before : n ≤ t.counter
    · exact counted n above before
    · exact full_of_nextNumber?_eq_none none n (by omega) within
  · intro taken
    cases h : t.nextNumber? k with
    | none => rfl
    | some n =>
      obtain ⟨above, -⟩ := freeFrom?_eq_some h
      obtain ⟨within, free⟩ := nextNumber?_eq_some h
      rw [taken n (by omega) within] at free
      exact absurd free (by simp)

end Table

namespace Store

variable {writers : List Schema} {st st' : Store} {r stored : Record} {s : Schema}

/-- One step takes the numbers that it counts. -/
theorem counted_step (alone : st.Alone s)
    (only : ∀ s' ∈ writers, s'.collection = s.collection → s' = s) (h : Step writers st st')
    (counted : (st.table s.collection).Counted s.keyField.kind) :
    (st'.table s.collection).Counted s.keyField.kind := by
  rcases step_cases h with rfl | ⟨r, stored, hr, ht, h | h⟩
  · exact counted
  · obtain ⟨t, hinsert, tables⟩ := insert_eq_ok h
    rw [tables]
    split
    · rename_i here
      obtain rfl := only _ hr here
      exact Table.counted_insert alone.sound hinsert counted
    · exact counted
  · obtain ⟨t, hupdate, tables⟩ := update_eq_ok h
    rw [tables]
    split
    · rename_i here
      obtain rfl := only _ hr here
      exact Table.counted_update alone.sound ht alone.keys hupdate counted
    · exact counted

/-- **What was counted is taken**, in every reachable state. -/
theorem counted_of_run (hw : ∀ s ∈ writers, s.Resolved) (hs : s ∈ writers)
    (only : ∀ s' ∈ writers, s'.collection = s.collection → s' = s) (hst : Reachable writers st) :
    (st.table s.collection).Counted s.keyField.kind := by
  induction hst with
  | refl => exact Table.counted_empty _
  | tail run step ih => exact counted_step (alone_of_run hw run hs only) only step ih

/-! ## Every state -/

/-- **A store is a map from keys to records**, as long as a resource is alone on its collection.
What an insertion gives back is the record, with a key where it is to be given one and with zeros
where it is not persisted, and it is found under its key, which no row had; an insertion fails iff
the record brings a key that a row has, and stops iff it is to be given a key and every number is
taken. What an update gives back is the record, with zeros where it is not persisted, and it is
found under its key; an update fails iff no row has the key. No other key finds anything else, and
no other collection is touched. -/
theorem acts_as_map (hw : ∀ s ∈ writers, s.Resolved) (hst : Reachable writers st)
    (hr : r.schema ∈ writers) (ht : r.WellTyped)
    (only : ∀ s' ∈ writers, s'.collection = r.schema.collection → s' = r.schema) :
    (∀ stored st', Store.insert r st = (.ok stored, st') →
      ((Table.wantsKey r = false ∧ stored = r.stored) ∨
        (Table.wantsKey r = true ∧ ∃ key, stored = (r.put r.schema.primaryKey key).stored)) ∧
      ¬ st.HasKey r.schema stored.key ∧ Puts r.schema stored st st') ∧
    (∀ failure, (Store.insert r st).1 = .error failure ↔
      (Table.wantsKey r = false ∧ st.HasKey r.schema r.key ∧
        failure = .badRequest (.duplicateKey r.schema.collection r.key)) ∨
      (Table.wantsKey r = true ∧
        (st.table r.schema.collection).Exhausted r.schema.keyField.kind ∧
        failure = .crash .keysExhausted)) ∧
    (∀ stored st', Store.update r st = (.ok stored, st') →
      stored = r.stored ∧ stored.key = r.key ∧ Puts r.schema stored st st') ∧
    (∀ failure, (Store.update r st).1 = .error failure ↔
      ¬ st.HasKey r.schema r.key ∧ failure = .notFound (.row r.schema.collection)) ∧
    (∀ failure st', Store.insert r st = (.error failure, st') → st' = st) ∧
    ∀ failure st', Store.update r st = (.error failure, st') → st' = st := by
  have alone := alone_of_run hw hst hr only
  refine ⟨fun stored st' h => ⟨insert_stores h, insert_puts alone ht h⟩,
    fun failure => ?_, fun stored st' h => update_puts alone ht h,
    fun failure => update_error_iff alone ht, fun failure st' h => change_eq_error h,
    fun failure st' h => change_eq_error h⟩
  rw [insert_error_iff alone ht, Table.nextNumber?_eq_none_iff (counted_of_run hw hr only hst)]

/-- The second of two notes, given to a store once more. -/
def secondNote : Record := (Record.blank note).put note.primaryKey (.int 1)

theorem acts_as_map_twoNotes :
    (∀ s ∈ [note], s.Resolved) ∧ Reachable [note] twoNotes ∧ secondNote.WellTyped ∧
    (Store.insert secondNote twoNotes).1 =
      .error (.badRequest (.duplicateKey "note" (.int 1))) ∧
    (Store.update secondNote twoNotes).1 = .ok secondNote.stored ∧
    Puts note secondNote.stored twoNotes (Store.update secondNote twoNotes).2 := by
  have resolved : ∀ s ∈ [note], s.Resolved := fun s hs =>
    List.mem_singleton.mp hs ▸ resolved_note
  have typed : secondNote.WellTyped := (Record.wellTyped_blank note).put trivial
  have only : ∀ s' ∈ [note], s'.collection = note.collection → s' = note :=
    fun s' hs' _ => List.mem_singleton.mp hs'
  obtain ⟨-, refused, puts, -⟩ :=
    acts_as_map resolved reachable_twoNotes (List.mem_singleton_self note) typed only
  have there : twoNotes.HasKey note (.int 1) :=
    ⟨_, List.mem_of_getElem? (i := 1) rfl, rfl⟩
  have written : (Store.update secondNote twoNotes).1 = .ok secondNote.stored := rfl
  refine ⟨resolved, reachable_twoNotes, typed, (refused _).mpr (.inl ⟨rfl, there, rfl⟩), written,
    ?_⟩
  exact (puts _ _ (Prod.ext written rfl)).2.2

end Store

end Registrar
