import Registrar.Proofs.Frozen
import Registrar.Proofs.Valid

/-!
# What a deletion does

A deletion flags the row it is asked for, stamps it and checks it once more, as a whole. What was
checked when the row was written passes again, and a flag that is set passes what one that is not
set does. But the row is not all that was checked then: the store has assigned its key since, and
has blanked what is not persisted, and the time of the change is a new one (`Rechecks`).

* `Rule.check_flag`: what passes for a flag passes for a flag that is set.
* `Lifecycle.Standard.exists_preUpdate_iff`: what a hook asks of a record before it is written.
* `delete_flags`: a deletion flags its row and changes nothing else, or fails and changes nothing.
* `delete_may_miss`: each of the conditions is needed.
-/

namespace Registrar

/-! ## Flags that are set -/

/-- A test that holds of a flag holds of one that is set. -/
theorem Test.holds_flag {t : Test} {b : Bool} (h : t.holds (.bool b) = true) :
    t.holds (.bool true) = true := by
  cases t with
  | nonzero => rfl
  | _ => exact h

namespace Rule

mutual

/-- **What passes for a flag passes for one that is set.** -/
theorem check_flag : ∀ {rule : Rule} {b : Bool}, rule.check (.bool b) = .pass →
    rule.check (.bool true) = .pass
  | .test t, b, h => by
    rw [check] at h ⊢
    split at h
    · rename_i holds
      rw [if_pos (Test.holds_flag holds)]
    · exact absurd h (by simp)
  | .each rules, b, h => h
  | .panic rules, b, h => by
    rw [check] at h ⊢
    cases hall : checkAll rules (.bool b) with
    | pass => rw [checkAll_flag hall]; rfl
    | fail name => rw [hall] at h; exact absurd h (by simp [Outcome.escalate])
    | fatal name => rw [hall] at h; exact absurd h (by simp [Outcome.escalate])

theorem checkAll_flag : ∀ {rules : List Rule} {b : Bool}, checkAll rules (.bool b) = .pass →
    checkAll rules (.bool true) = .pass
  | [], _, _ => rfl
  | rule :: rest, b, h => by
    rw [checkAll] at h ⊢
    cases hrule : rule.check (.bool b) with
    | pass =>
      rw [hrule] at h
      rw [check_flag hrule]
      exact checkAll_flag h
    | fail name => rw [hrule] at h; exact absurd h (by simp)
    | fatal name => rw [hrule] at h; exact absurd h (by simp)

end

end Rule

theorem Field.Passes.flag {f : Field} {b : Bool} (h : f.Passes (.bool b)) :
    f.Passes (.bool true) := fun rule hrule => Rule.check_flag (h rule hrule)

/-! ## What a hook asks -/

namespace Record

variable {r : Record} {i : Fin r.schema.fields.length} {v : Value}

theorem validAt_put_self : (r.put i v).ValidAt i ↔ (r.schema.fields.get i).Passes v := by
  have there : (r.put i v).values[i.val]? = some v := by rw [getElem?_put, if_pos rfl]
  constructor
  · exact fun h => h _ _ (r.schema.getElem?_fields i) there
  · intro h f w hf hw
    rw [← Option.some.inj ((r.schema.getElem?_fields i).symm.trans hf),
      ← Option.some.inj (there.symm.trans hw)]
    exact h

theorem validAt_put_ne {j : Nat} (hj : j ≠ i) : (r.put i v).ValidAt j ↔ r.ValidAt j :=
  ⟨(r.eqOff_put i v).symm.validAt hj, (r.eqOff_put i v).validAt hj⟩

/-- A record with a value put in is valid iff the value passes and the other ones do. -/
theorem valid_put :
    (r.put i v).Valid ↔ (∀ j, j ≠ i.val → r.ValidAt j) ∧ (r.schema.fields.get i).Passes v := by
  constructor
  · exact fun h => ⟨fun j hj => (validAt_put_ne hj).mp (h j), validAt_put_self.mp (h i)⟩
  · rintro ⟨others, pass⟩ j
    by_cases hj : j = i
    · rw [hj]
      exact validAt_put_self.mpr pass
    · exact (validAt_put_ne hj).mpr (others j hj)

end Record

namespace Lifecycle

variable {l : Lifecycle} {now : Int64} {r : Record}

/-- The time of a change fits the field for it and passes its rules, where a hook writes it. -/
def Stamps (l : Lifecycle) (now : Int64) (s : Schema) : Prop :=
  l = .stamped → ∀ i, s.updated = some i → ∃ v, (Value.int now).coerce? (s.fields.get i).kind =
    some v ∧ (s.fields.get i).Passes v

theorem stamped_preUpdate_eq_ok {r' : Record} : stamped.preUpdate now r = .ok r' ↔
    stampAt now r r.schema.updated = .ok r' ∧ r'.Valid := by
  refine bind_eq_ok.trans ⟨?_, fun ⟨hstamp, valid⟩ =>
    ⟨r', hstamp, checked_eq_ok_iff.mpr ⟨rfl, valid⟩⟩⟩
  rintro ⟨stamped, hstamp, h⟩
  obtain ⟨rfl, valid⟩ := checked_eq_ok_iff.mp h
  exact ⟨hstamp, valid⟩

theorem exists_stamped_iff : (∃ r', stamped.preUpdate now r = .ok r') ↔
    (∀ i, ¬ r.schema.IsUpdated i → r.ValidAt i) ∧ ∀ i, r.schema.updated = some i →
      ∃ v, (Value.int now).coerce? (r.schema.fields.get i).kind = some v ∧
        (r.schema.fields.get i).Passes v := by
  simp only [stamped_preUpdate_eq_ok]
  unfold Schema.IsUpdated
  cases r.schema.updated with
  | none =>
    constructor
    · rintro ⟨_, same, valid⟩
      obtain rfl := Except.ok.inj same
      exact ⟨fun i _ => valid i, fun i hi => absurd hi (by simp)⟩
    · exact fun ⟨valid, _⟩ => ⟨r, rfl, fun i => valid i (by simp)⟩
  | some j =>
    constructor
    · rintro ⟨r', hstamp, valid⟩
      obtain ⟨w, hw, rfl⟩ := stampAt_some_eq_ok.mp hstamp
      obtain ⟨others, pass⟩ := Record.valid_put.mp valid
      refine ⟨fun i hi => others i fun same => hi (by rw [same]; rfl), fun i hi => ?_⟩
      rw [← Option.some.inj hi]
      exact ⟨w, hw, pass⟩
    · rintro ⟨others, time⟩
      obtain ⟨w, hw, pass⟩ := time j rfl
      have valid : (r.put j w).Valid := Record.valid_put.mpr
        ⟨fun i hi => others i fun same => hi (Option.some.inj same).symm, pass⟩
      exact ⟨r.put j w, stampAt_some_eq_ok.mpr ⟨w, hw, rfl⟩, valid⟩

/-- **A standard hook accepts a record** iff what it does not touch is valid, and the time of the
change is. -/
theorem Standard.exists_preUpdate_iff (hl : l.Standard) : (∃ r', l.preUpdate now r = .ok r') ↔
    (∀ i, ¬ l.Touches r.schema i → r.ValidAt i) ∧ l.Stamps now r.schema := by
  unfold Touches Stamps
  by_cases stamps : l = .stamped
  · subst stamps
    simpa using exists_stamped_iff
  · obtain rfl := hl.resolve_left stamps
    have plain : (∃ r', Lifecycle.plain.preUpdate now r = .ok r') ↔ r.Valid :=
      ⟨fun ⟨_, h⟩ => (checked_eq_ok_iff.mp h).2, fun h => ⟨r, checked_eq_ok_iff.mpr ⟨rfl, h⟩⟩⟩
    rw [plain]
    exact ⟨fun h => ⟨fun i _ => h i, fun same => absurd same stamps⟩,
      fun ⟨h, _⟩ i => h i fun touched => stamps touched.1⟩

end Lifecycle

/-- Where keys are of one kind, a row is found under its key. -/
theorem Traffic.find?_key {sv : Service} {t : Traffic} {row : Record} (hreg : sv.registry.Sound)
    (hstd : sv.Standard) (ht : Reachable sv t) (one : Store.OneKind sv.registry.schemas)
    {c : String} (hrow : row ∈ (t.store.table c).rows) :
    (t.store.table c).find? row.key = some row := by
  have distinct := Store.distinct_of_run hreg.schemas one (reachable_store hreg hstd ht) c
  obtain ⟨hschema, -, typed, -⟩ := (sane_of_run hreg hstd ht).rows c row hrow
  obtain ⟨i, there⟩ := List.getElem?_of_mem hrow
  have self := Value.sameKey_self (hreg.schemas _ hschema).keyKind typed.key
  exact Table.find?_eq_some.mpr ⟨i, distinct.first there self⟩

/-! ## What a deletion asks -/

/-- A key is no flag, and neither is a time. -/
theorem Schema.Sound.key_ne_flag {s : Schema} (hs : s.Sound) {i : Fin s.fields.length}
    (hi : s.softDelete = some i) : s.primaryKey.val ≠ i.val := by
  intro same
  have kind := hs.keyKind
  unfold keyField at kind
  rw [Fin.ext same, hs.softDelete i hi] at kind
  exact absurd kind (by decide)

theorem Schema.Sound.not_isUpdated_of_isSoftDelete {s : Schema} (hs : s.Sound) {i : Nat}
    (hi : s.IsSoftDelete i) : ¬ s.IsUpdated i := by
  intro h
  obtain ⟨j, hj, rfl⟩ := Option.map_eq_some_iff.mp h
  refine hs.not_isSoftDelete (fun bool => ?_) hi
  have time := hs.updated j hj
  rw [bool] at time
  exact absurd time (by decide)

/-- The field for the flag of a row passes the flag set, as it passed the one that the row has. -/
theorem Record.Kept.flag {row : Record} (kept : row.Kept) (typed : row.WellTyped)
    (hs : row.schema.Sound) {i : Fin row.schema.fields.length}
    (hi : row.schema.softDelete = some i) (hp : (row.schema.fields.get i).isPersisted = true) :
    (row.schema.fields.get i).Passes (.bool true) := by
  have kind := typed i _ _ (row.schema.getElem?_fields i) (row.getElem?_values i)
  have pass := (validAt_iff i).mp
    (kept i _ (row.schema.getElem?_fields i) hp fun same => hs.key_ne_flag hi same.symm)
  rw [hs.softDelete i hi] at kind
  cases hv : row.value i with
  | bool b => exact (hv ▸ pass).flag
  | _ => rw [hv] at kind; exact absurd kind (by simp [Value.HasKind])

namespace Service

variable {sv : Service} {now : Int64} {row : Record} {resource : String} {st st' : Store}
  {answer : Except Failure Record}

/-- What is checked of a row once more that is not as it was when it was checked before: its key,
what is not persisted, and the time of the change. -/
structure Rechecks (sv : Service) (now : Int64) (row : Record) : Prop where
  key : row.schema.keyField.Passes row.key
  blank : ∀ (i : Nat) (f : Field), row.schema.fields[i]? = some f → f.isPersisted = false →
    ¬ (sv.lifecycleOf row.schema).Touches row.schema i → f.Passes (.zero f.kind)
  time : (sv.lifecycleOf row.schema).Stamps now row.schema

/-- **A row with its flag set is accepted** iff what it did not bring from its last check is. -/
theorem exists_deleted_iff (hs : row.schema.Sound) (hl : (sv.lifecycleOf row.schema).Standard)
    (typed : row.WellTyped) (settled : row.Settled) (kept : row.Kept)
    {i : Fin row.schema.fields.length} (hi : row.schema.softDelete = some i)
    (hp : (row.schema.fields.get i).isPersisted = true)
    (hkey : ¬ (sv.lifecycleOf row.schema).Touches row.schema row.schema.primaryKey) :
    (∃ r, sv.deleted now row.schema row = .ok r) ↔ sv.Rechecks now row := by
  have apart := hs.key_ne_flag hi
  unfold deleted
  rw [Record.flagged?_of_softDelete hi]
  refine hl.exists_preUpdate_iff.trans ⟨fun ⟨valid, time⟩ => ⟨?_, ?_, time⟩, fun h => ⟨?_, h.time⟩⟩
  · exact (Record.validAt_iff _).mp ((Record.validAt_put_ne apart).mp (valid _ hkey))
  · intro j f hf blank untouched
    have other : j ≠ i.val := by
      rintro rfl
      rw [← Option.some.inj ((row.schema.getElem?_fields i).symm.trans hf), hp] at blank
      exact absurd blank (by simp)
    exact (Record.validAt_put_ne other).mp (valid j untouched) f _ hf (settled j f hf blank)
  · -- an index is the flag's, the key's, or one that holds what was checked last or a zero
    intro j untouched
    by_cases flag : j = i.val
    · subst flag
      exact Record.validAt_put_self.mpr (kept.flag typed hs hi hp)
    · rw [Record.validAt_put_ne flag]
      intro f v hf hv
      by_cases key : j = row.schema.primaryKey
      · subst key
        exact (Record.validAt_iff _).mpr h.key f v hf hv
      · cases persisted : f.isPersisted with
        | true => exact kept j f hf persisted key f v hf hv
        | false =>
          rw [settled j f hf persisted] at hv
          rw [← Option.some.inj hv]
          exact h.blank j f hf persisted untouched

/-! ## What a deletion leaves -/

/-- A row as a deletion leaves it: flagged, and otherwise as it was in what is persisted, the time
of the last change apart. -/
structure Flags (row stored : Record) : Prop where
  schema : stored.schema = row.schema
  flag : ∀ i, row.schema.IsSoftDelete i → stored.values[i]? = some (.bool true)
  kept : ∀ (i : Nat) (f : Field), row.schema.fields[i]? = some f → f.isPersisted = true →
    ¬ row.schema.IsSoftDelete i → ¬ row.schema.IsUpdated i → stored.values[i]? = row.values[i]?

/-- A deletion has come about: under the key of the row the flagged one is found, in its place, and
no other row is changed. -/
structure Deletes (row stored : Record) (st st' : Store) : Prop where
  flags : Flags row stored
  found : (st'.table row.schema.collection).find? row.key = some stored
  others : ∃ i, (st.table row.schema.collection).rows[i]? = some row ∧ ∀ c, (st'.table c).rows =
    if row.schema.collection = c then (st.table c).rows.set i stored else (st.table c).rows

/-- What is handed to the store is the row, flagged, under its key. -/
theorem flags_of_deleted {r : Record} (hs : row.schema.Sound)
    (hl : (sv.lifecycleOf row.schema).Standard)
    (hflag : ∀ i, row.schema.softDelete = some i → (row.schema.fields.get i).isPersisted = true)
    (hkey : ¬ (sv.lifecycleOf row.schema).Touches row.schema row.schema.primaryKey)
    (h : sv.deleted now row.schema row = .ok r) :
    Flags row r.stored ∧ r.schema = row.schema ∧ r.key = row.key := by
  unfold deleted at h
  split at h
  · exact absurd h (by simp)
  · rename_i flagged hflagged
    obtain ⟨i, hi, rfl⟩ := Record.flagged?_eq_some hflagged
    obtain ⟨stamp, -⟩ := hl.preUpdate h
    have off := ((row.eqOff_put i (.bool true)).mono fun j hj => Or.inl hj).trans
      (stamp.mono fun j hj => Or.inr hj)
    have role : ∀ j, row.schema.IsSoftDelete j → j = i.val := by
      intro j hj
      unfold Schema.IsSoftDelete at hj
      rw [hi] at hj
      exact (Option.some.inj hj).symm
    refine ⟨⟨off.schema, fun j hj => ?_, fun j f hf hp flag updated => ?_⟩, off.schema, off.key ?_⟩
    · -- the hook does not touch the flag
      have same := stamp.values j fun touched =>
        hs.not_isUpdated_of_isSoftDelete hj touched.2
      obtain rfl := role j hj
      have field : r.schema.fields[i.val]? = some (row.schema.fields.get i) := by
        rw [off.schema]
        exact row.schema.getElem?_fields i
      rw [r.getElem?_stored field, if_pos (hflag i hi), same, Record.getElem?_put, if_pos rfl]
    · have field : r.schema.fields[j]? = some f := by rw [off.schema]; exact hf
      rw [r.getElem?_stored field, if_pos hp]
      refine off.values j ?_
      rintro (rfl | touched)
      · exact flag (by unfold Schema.IsSoftDelete; rw [hi]; rfl)
      · exact updated touched.2
    · rintro (same | touched)
      · exact hs.key_ne_flag hi same
      · exact hkey touched

/-- A record whose key finds a row is written over it. -/
theorem exists_update {r old : Record} (h : (st.table r.schema.collection).find? r.key = some old) :
    ∃ st', Store.update r st = (.ok r.stored, st') := by
  have held : (st.table r.schema.collection).holds r.key = true := by
    rw [Table.holds_eq_isSome, h]
    rfl
  have written : (st.table r.schema.collection).update r = .ok (r.stored, _) := if_pos held
  unfold Store.update Store.change
  simp only [written]
  exact ⟨_, rfl⟩

/-- A deletion that finds a row works on it and writes it. -/
theorem delete_of_find? {s : Schema} {id : Value} {current : Record}
    (hs : sv.schema resource .delete = .ok s)
    (hfind : (st.table s.collection).find? id = some current) :
    sv.delete now resource id st = match sv.deleted now s current with
      | .ok r => Store.update r st
      | .error failure => (.error failure, st) := by
  unfold delete
  rw [Action.liftExcept_bind_apply, hs]
  show (fetch s id >>= _) st = _
  rw [Action.bind_apply, fetch_apply, hfind]
  show (liftExcept (sv.deleted now s current) >>= fun r => Store.update r) st = _
  rw [Action.liftExcept_bind_apply]
  cases sv.deleted now s current <;> rfl

/-- **A deletion flags its row**, and changes nothing else, if the row passes the check of what it
did not bring from its last one; if it does not, the deletion fails and changes nothing. -/
theorem delete_flags {d : Descriptor} (hreg : d.resolve = .ok sv.registry) (hstd : sv.Standard)
    {t : Traffic} (ht : Traffic.Reachable sv t)
    (hs : sv.schema resource .delete = .ok row.schema)
    (hrow : row ∈ (t.store.table row.schema.collection).rows)
    (hfound : Store.OneKind sv.registry.schemas ∨
      (t.store.table row.schema.collection).find? row.key = some row)
    (hflag : ∀ i, row.schema.softDelete = some i → (row.schema.fields.get i).isPersisted = true)
    (hkey : ¬ (sv.lifecycleOf row.schema).Touches row.schema row.schema.primaryKey)
    (h : sv.delete now resource row.key t.store = (answer, st')) :
    (sv.Rechecks now row → ∃ stored, answer = .ok stored ∧ Deletes row stored t.store st') ∧
    (¬ sv.Rechecks now row → (∃ failure, answer = .error failure) ∧ st' = t.store) := by
  have reg := Registry.sound_of_resolve hreg
  obtain ⟨hmem, -, allowed⟩ := schema_eq_ok hs
  have sound := reg.schemas _ hmem
  have hl := hstd _ hmem
  obtain ⟨-, -, typed, settled⟩ := (Traffic.sane_of_run reg hstd ht).rows _ row hrow
  have kept := Traffic.kept_of_run hstd ht _ row hrow
  have hfind : (t.store.table row.schema.collection).find? row.key = some row :=
    hfound.elim (fun one => Traffic.find?_key reg hstd ht one hrow) id
  obtain ⟨i, hi⟩ := Option.isSome_iff_exists.mp (sound.deletable allowed)
  have accepted : (∃ r, sv.deleted now row.schema row = .ok r) ↔ sv.Rechecks now row :=
    exists_deleted_iff sound hl typed settled kept hi (hflag i hi) hkey
  rw [delete_of_find? hs hfind] at h
  constructor
  · intro again
    obtain ⟨r, hr⟩ := accepted.mpr again
    obtain ⟨flags, schema, key⟩ := flags_of_deleted sound hl hflag hkey hr
    rw [hr] at h
    obtain ⟨st'', ok⟩ := exists_update (r := r) (by rw [schema, key]; exact hfind)
    obtain ⟨rfl, rfl⟩ := Prod.mk.inj (h.symm.trans ok)
    obtain ⟨table, hupdate, tables⟩ := Store.update_eq_ok h
    obtain ⟨-, j, old, first, rows⟩ := Table.update_spec hupdate
    -- the key is as it was, so the row that is written over is the one that was found
    obtain ⟨k, found⟩ := Table.find?_eq_some.mp hfind
    rw [schema, key] at first
    obtain ⟨rfl, rfl⟩ := first.unique found
    rw [schema] at tables rows
    have keyStored : r.stored.key = old.key := by
      rw [Record.key_stored (by rw [schema]; exact sound.keyPersisted), key]
    refine ⟨r.stored, rfl, flags, ?_, j, found.row, fun c => ?_⟩
    · rw [Table.find?_eq_some, tables, if_pos rfl, rows]
      exact ⟨j, found.set keyStored⟩
    · rw [tables]
      split
      · rename_i here
        rw [rows, here]
      · rfl
  · intro fails
    cases hr : sv.deleted now row.schema row with
    | ok r => exact absurd (accepted.mp ⟨r, hr⟩) fails
    | error failure =>
      rw [hr] at h
      obtain ⟨rfl, rfl⟩ := Prod.mk.inj h
      exact ⟨⟨failure, rfl⟩, rfl⟩

theorem delete_flags_firstNote :
    notes.resolve = .ok noteService.registry ∧ noteService.Standard ∧
    Traffic.Reachable noteService ⟨oneNote firstNote, []⟩ ∧ noteService.Rechecks 30 firstNote ∧
    noteService.delete 30 "note" (.int 1) (oneNote firstNote) =
      (.ok Traffic.deletedNote, oneNote Traffic.deletedNote) ∧
    Deletes firstNote Traffic.deletedNote (oneNote firstNote) (oneNote Traffic.deletedNote) := by
  have ruleless : ∀ f ∈ note.fields, ∀ v, f.Passes v := by
    intro f hf v rule hrule
    have none : f.rules = [] := by
      revert f
      simp [note, noteColumn]
    rw [none] at hrule
    exact absurd hrule List.not_mem_nil
  have again : noteService.Rechecks 30 firstNote := by
    refine ⟨ruleless _ (List.get_mem _ _) _,
      fun i f hf _ _ => ruleless f (List.mem_of_getElem? hf) _, fun _ i hi => ?_⟩
    obtain rfl := Option.some.inj hi
    exact ⟨.int 30, rfl, ruleless _ (List.get_mem _ _) _⟩
  have deletion : noteService.delete 30 "note" (.int 1) (oneNote firstNote) =
      (.ok Traffic.deletedNote, oneNote Traffic.deletedNote) := rfl
  refine ⟨notes_resolve, standard_notes, reachable_oneNote, again, deletion, ?_⟩
  obtain ⟨stored, same, deletes⟩ := (delete_flags notes_resolve standard_notes
    reachable_oneNote (show noteService.schema "note" .delete = .ok firstNote.schema from rfl)
    (List.mem_singleton_self firstNote) (.inr rfl)
    (fun i hi => by obtain rfl := Option.some.inj hi; rfl)
    (fun touched => key_of_note_stays.2 touched.2) deletion).1 again
  obtain rfl := Except.ok.inj same
  exact deletes

/-! ## Deletions that miss -/

/-- A resolved registry, a state that its service reaches, and a row there that a deletion asked for
by its key does not delete. -/
def Survives (d : Descriptor) (sv : Service) (st : Store) (now : Int64) (row : Record) : Prop :=
  d.resolve = .ok sv.registry ∧ sv.Standard ∧ Traffic.Reachable sv ⟨st, []⟩ ∧
    sv.schema row.schema.name .delete = .ok row.schema ∧
    row ∈ (st.table row.schema.collection).rows ∧
    ¬ ((∃ r, (sv.delete now row.schema.name row.key st).1 = .ok r) ∧
      ∃ stored, Deletes row stored st (sv.delete now row.schema.name row.key st).2)

/-- The descriptor of tasks: their fields, and the one that is the time of the last change. -/
def tasks (fields : List Descriptor.Field) (updated : Option String) : Descriptor where
  resources := [{
    name := "task"
    collection := none
    primaryKey := "id"
    autoKey := true
    created := none
    updated := updated
    softDelete := some "gone"
    operations := [.create, .delete]
    fields := fields }]

/-- The schema of tasks. -/
def task (key flag : Field) (rest : List Field) (updated : Option (Fin (rest.length + 2))) :
    Schema where
  name := "task"
  collection := "task"
  fields := key :: flag :: rest
  primaryKey := ⟨0, Nat.succ_pos _⟩
  autoKey := true
  created := none
  updated := updated
  softDelete := some ⟨1, Nat.succ_lt_succ (Nat.succ_pos _)⟩
  operations := [.create, .delete]

/-- The service of tasks. -/
def taskService (l : Lifecycle) (s : Schema) : Service := ⟨⟨[s]⟩, l, []⟩

/-- The store after a task was created at time 10. -/
def oneTask (l : Lifecycle) (s : Schema) (body : Json) : Store :=
  ((taskService l s).create 10 "task" body .empty).2

theorem reachable_oneTask (l : Lifecycle) (s : Schema) (body : Json) :
    Traffic.Reachable (taskService l s) ⟨oneTask l s body, []⟩ :=
  .single (.create .start 10 "task" body)

/-- The key of a task as it is resolved. -/
def taskKey : Field := noteColumn "id" .int (some "id") none

/-- The flag of a task as it is resolved. -/
def taskFlag : Field := noteColumn "gone" .bool (some "gone") none

/-- A field with a rule that no zero passes. -/
def demanding (f : Field) : Field := { f with tag := "nonzero", rules := [.test .nonzero] }

/-- A task with a key that is a text, which must be empty. -/
def keyless : Schema :=
  task { noteColumn "id" .string (some "id") none with
    tag := "maxlen(0)"
    rules := [.test (.maxLength 0)] } taskFlag [] none

/-- A task with a password that must be given and is not persisted. -/
def guarded : Schema :=
  task taskKey taskFlag
    [{ demanding (noteColumn "pass" .string (some "pass") none) with column := none }] none

/-- A task whose last change must not be at time 0. -/
def timed : Schema :=
  task taskKey taskFlag [demanding (noteColumn "at" .int (some "at") none)] (some 2)

/-- A task with a flag that is not persisted. -/
def unflagged : Schema := task taskKey { taskFlag with column := none } [] none

/-- A task with the time of the last change for its key. -/
def moving : Schema := task taskKey taskFlag [] (some 0)

/-- A resource whose records are kept in a room. -/
def roomResource (name : String) (kind : Kind) (merge : Option String) (ops : List Operation) :
    Descriptor.Resource where
  name := name
  collection := some "room"
  primaryKey := "id"
  autoKey := false
  created := none
  updated := none
  softDelete := some "gone"
  operations := ops
  fields := [noteField "id" kind none merge, noteField "gone" .bool none none]

/-- The schema of a resource whose records are kept in a room. -/
def roomSchema (name : String) (kind : Kind) (mergeable : Option Bool) (ops : List Operation) :
    Schema where
  name := name
  collection := "room"
  fields := [noteColumn "id" kind (some "id") mergeable, taskFlag]
  primaryKey := 0
  autoKey := false
  created := none
  updated := none
  softDelete := some 1
  operations := ops

/-- The schema of seats, which have signed keys. -/
def seat : Schema := roomSchema "seat" .int none [.create, .delete]

/-- The schema of places, which have unsigned keys that a document may change. -/
def place : Schema := roomSchema "place" .uint (some true) [.create, .update]

/-- The service of seats and places, which are kept together. -/
def roomService : Service := ⟨⟨[seat, place]⟩, .plain, []⟩

/-- A document with a key. -/
def keyed (id : UInt64) : Json := .object [("id", .number (.nat id))]

/-- A seat. -/
def seatAt (key : Int64) : Record := ⟨seat, [.int key, .bool false], rfl⟩

/-- A place. -/
def placeAt (key : UInt64) (gone : Bool) : Record := ⟨place, [.uint key, .bool gone], rfl⟩

/-- A store with the rows of a room. -/
def room (rows : List Record) : Store := ⟨[("room", ⟨rows, 0⟩)]⟩

/-- The store after two seats and a place were created with three keys in a row, and the place was
given the second one. -/
def crowded : Store :=
  room [placeAt 9007199254740993 false, seatAt 9007199254740993, placeAt 9007199254740994 false]

theorem reachable_crowded : Traffic.Reachable roomService ⟨crowded, []⟩ := by
  have create : ∀ (rows : List Record) (row : Record) (resource : String) (key : UInt64),
      (roomService.create 10 resource (keyed key) (room rows)).2 = room (rows ++ [row]) →
      Traffic.Step roomService ⟨room rows, []⟩ ⟨room (rows ++ [row]), []⟩ :=
    fun rows row resource key h => h ▸ Traffic.Step.create ⟨room rows, []⟩ 10 resource (keyed key)
  refine .head (.create .start 10 "seat" (keyed 9007199254740992)) ?_
  refine .head (create [seatAt 9007199254740992] (seatAt 9007199254740993) "seat" 9007199254740993
    rfl) ?_
  refine .head (create [seatAt 9007199254740992, seatAt 9007199254740993]
    (placeAt 9007199254740994 false) "place" 9007199254740994 rfl) ?_
  exact Traffic.run_of_update roomService 40 "place" (.uint 9007199254740994)
    (keyed 9007199254740993) (room [seatAt 9007199254740992, seatAt 9007199254740993,
      placeAt 9007199254740994 false]) []

/-- **A deletion may miss** where the key that was assigned fails a rule, where what is not
persisted must be given, where the time of the change fails a rule, where the flag is not
persisted, where the key is the time of the change, and where another row is the first with the
same key. -/
theorem delete_may_miss :
    Survives (tasks [{ noteField "id" .string none none with validate := some "maxlen(0)" },
        noteField "gone" .bool none none] none) (taskService .plain keyless)
      (oneTask .plain keyless (.object [])) 20 ⟨keyless, [.string "1", .bool false], rfl⟩ ∧
    Survives (tasks [noteField "id" .int none none, noteField "gone" .bool none none,
        { noteField "pass" .string none none with
          column := some "-"
          validate := some "nonzero" }] none) (taskService .plain guarded)
      (oneTask .plain guarded (.object [("pass", .string "x")])) 20
      ⟨guarded, [.int 1, .bool false, .string ""], rfl⟩ ∧
    Survives (tasks [noteField "id" .int none none, noteField "gone" .bool none none,
        { noteField "at" .int none none with validate := some "nonzero" }] (some "at"))
      (taskService .stamped timed) (oneTask .stamped timed (.object [])) 0
      ⟨timed, [.int 1, .bool false, .int 10], rfl⟩ ∧
    Survives (tasks [noteField "id" .int none none,
        { noteField "gone" .bool none none with column := some "-" }] none)
      (taskService .plain unflagged) (oneTask .plain unflagged (.object [])) 20
      ⟨unflagged, [.int 1, .bool false], rfl⟩ ∧
    Survives (tasks [noteField "id" .int none none, noteField "gone" .bool none none] (some "id"))
      (taskService .stamped moving) (oneTask .stamped moving (.object [])) 20
      ⟨moving, [.int 10, .bool false], rfl⟩ ∧
    Survives ⟨[roomResource "seat" .int none [.create, .delete],
        roomResource "place" .uint (some "true") [.create, .update]]⟩ roomService crowded 50
      (seatAt 9007199254740993) := by
  have first : ∀ row : Record, row ∈ [row] := List.mem_singleton_self
  refine ⟨⟨by cbv, fun _ _ => .inr rfl, reachable_oneTask _ _ _, rfl, first _, ?_⟩,
    ⟨by cbv, fun _ _ => .inr rfl, reachable_oneTask _ _ _, rfl, first _, ?_⟩,
    ⟨by cbv, fun _ _ => .inl rfl, reachable_oneTask _ _ _, rfl, first _, ?_⟩,
    ⟨by cbv, fun _ _ => .inr rfl, reachable_oneTask _ _ _, rfl, first _, ?_⟩,
    ⟨by cbv, fun _ _ => .inl rfl, reachable_oneTask _ _ _, rfl, first _, ?_⟩,
    ⟨by cbv, fun _ _ => .inr rfl, reachable_crowded, rfl, List.mem_of_getElem? (i := 1) rfl, ?_⟩⟩
  · rintro ⟨⟨r, ok⟩, -⟩
    cases ok
  · rintro ⟨⟨r, ok⟩, -⟩
    cases ok
  · rintro ⟨⟨r, ok⟩, -⟩
    cases ok
  · rintro ⟨-, stored, deletes⟩
    obtain rfl := Option.some.inj deletes.found
    have flag : some (Value.bool false) = some (.bool true) := deletes.flags.flag 1 rfl
    cases flag
  · rintro ⟨⟨r, ok⟩, -⟩
    cases ok
  · rintro ⟨-, stored, deletes⟩
    -- the place has the same key as a float, and comes first
    have hit : ((roomService.delete 50 "seat" (.int 9007199254740993) crowded).2.table "room").find?
        (.int 9007199254740993) = some (placeAt 9007199254740993 true) := rfl
    obtain rfl := Option.some.inj (hit.symm.trans deletes.found)
    have key : some (Value.uint 9007199254740993) = some (.int 9007199254740993) :=
      deletes.flags.kept 0 _ rfl rfl (by unfold Schema.IsSoftDelete; decide)
        (by unfold Schema.IsUpdated; decide)
    cases key

end Service

end Registrar
