import Registrar.Proofs.Changes
import Registrar.Proofs.Creation

/-!
# What an update makes of a row

An update takes every field that is declared to change from its document, whether the document has
a value for it or not, and keeps the other ones. The hook sets the time of the change, and what is
not persisted is zero. Nothing of this depends on what the update takes away, so the same update at
the same time makes the same record of its own result, and writing that record once more leaves the
store as it is.

* `Makes.revises`: what an update makes of a row, index by index.
* `Change.work_stored`: a change of its own result.
* `Store.update_again`: a record that is written twice.
* **`Service.update_revises`**: all of it, in every reachable state.
-/

namespace Registrar

/-! ## Index by index -/

/-- What an update makes of a row at an index: zero without a column, the time of the change in the
field for it, what the document says where the field is declared to change, and elsewhere what the
row holds. -/
inductive Revises (now : Int64) (s : Schema) (members : List (String × Json)) (row : Record)
    (i : Nat) (f : Field) : Value → Prop where
  | blank (column : f.isPersisted = false) : Revises now s members row i f (.zero f.kind)
  | time {v : Value} (column : f.isPersisted = true) (updated : s.IsUpdated i)
    (stamp : (Value.int now).coerce? f.kind = some v) : Revises now s members row i f v
  | said {v : Value} (column : f.isPersisted = true) (other : ¬ s.IsUpdated i)
    (merge : s.IsMergeable i) (reads : f.Reads members v) : Revises now s members row i f v
  | kept {v : Value} (column : f.isPersisted = true) (other : ¬ s.IsUpdated i)
    (merge : ¬ s.IsMergeable i) (holds : row.values[i]? = some v) :
    Revises now s members row i f v

section

variable {sv : Service} {now : Int64} {s : Schema} {change : Change} {body : Json}
  {row row' r : Record} {i : Nat} {f : Field}

/-- A change leaves the time where its hook touches a record. -/
theorem Change.work_time (ed : sv.Edits s) (hrow : row.RowOf s)
    (h : change.work sv now s row = .ok r) (touched : (sv.lifecycleOf s).Touches s i)
    (hf : s.fields[i]? = some f) :
    ∃ w, r.values[i]? = some w ∧ (Value.int now).coerce? f.kind = some w := by
  have schema : r.schema = s :=
    (Change.work_eqOff ed.sound ed.standard hrow.schema hrow.typed h).1.schema.trans hrow.schema
  obtain ⟨m, -, hook⟩ := Change.work_eq_ok_iff.mp h
  have same : m.schema = s := (ed.standard.preUpdate hook).1.schema.symm.trans schema
  obtain ⟨stamps, updated⟩ := touched
  rw [stamps] at hook
  obtain ⟨hstamp, -⟩ := Lifecycle.stamped_preUpdate_eq_ok.mp hook
  exact Lifecycle.stampAt_sets hstamp (by rw [same]; exact updated) (by rw [same]; exact hf)

/-- **An update, index by index.** -/
theorem Makes.revises (ed : sv.Edits s) (stamps : sv.lifecycleOf s = .stamped)
    (hrow : row.RowOf s) (h : Makes sv now s (.revision body) row row') :
    ∃ members, body = .object members ∧ ∀ (i : Nat) (f : Field), s.fields[i]? = some f →
      ∃ v, row'.values[i]? = some v ∧ Revises now s members row i f v := by
  obtain ⟨r, hwork, rfl⟩ := h
  have schema : r.schema = s :=
    (Change.work_eqOff ed.sound ed.standard hrow.schema hrow.typed hwork).1.schema.trans hrow.schema
  obtain ⟨m, ⟨patch, hdecode, hmerge⟩, hook⟩ := Change.work_eq_ok_iff.mp hwork
  obtain ⟨members, object, hpatch, said⟩ := Service.reads_of_decode hdecode
  obtain ⟨-, -, merged⟩ := MergeRule.apply_eq_ok hmerge
  have kept := MergeRule.eqOff_apply_tagged ed.sound hpatch hmerge
  have stamp := (ed.standard.preUpdate hook).1
  rw [show m.schema = s from kept.schema.trans hrow.schema] at stamp
  refine ⟨members, object, fun i f hf => ?_⟩
  have field : r.schema.fields[i]? = some f := schema ▸ hf
  cases column : f.isPersisted with
  | false => exact ⟨_, r.settled_stored i f field column, .blank column⟩
  | true =>
    rw [r.getElem?_stored field, if_pos column]
    by_cases updated : s.IsUpdated i
    · obtain ⟨w, hw, time⟩ := Change.work_time ed hrow hwork ⟨stamps, updated⟩ hf
      exact ⟨w, hw, .time column updated time⟩
    · rw [stamp.values i fun touched => updated touched.2]
      by_cases merge : s.IsMergeable i
      · obtain ⟨v, hv, reads⟩ := said i f hf
        refine ⟨v, ?_, .said column updated merge reads⟩
        rw [merged, hpatch, MergeRule.getElem?_pick_of_copies
          (by rw [patch.length_values, hpatch]) (by rw [row.length_values, hrow.schema]) hf
          (MergeRule.copies_of_isMergeable hf merge), hv]
      · obtain ⟨v, hv⟩ := row.exists_getElem?_values (hrow.schema ▸ hf)
        exact ⟨v, (kept.values i merge).trans hv, .kept column updated merge hv⟩

/-! ## The same again -/

/-- **A change of its own result**, at the same time, makes what it made. -/
theorem Change.work_stored (ed : sv.Edits s) (hrow : row.RowOf s)
    (h : change.work sv now s row = .ok r) : change.work sv now s r.stored = .ok r := by
  have made : Makes sv now s change row r.stored := ⟨r, h, rfl⟩
  have hrow' := made.rowOf ed hrow
  have schema : r.schema = s := hrow'.schema
  obtain ⟨r', hwork', schema', again⟩ := Change.work_again ed.sound ed.standard hrow.schema
    hrow'.schema h fun i _ => made.kept_or_validAt ed hrow i
  suffices same : r' = r by rw [hwork', same]
  refine Record.ext_of_values (schema'.trans schema.symm) fun i => ?_
  by_cases touched : (sv.lifecycleOf s).Touches s i
  · -- both records have the time of the change there
    cases hf : s.fields[i]? with
    | none =>
      rw [r'.getElem?_values_eq_none (schema' ▸ hf), r.getElem?_values_eq_none (schema ▸ hf)]
    | some f =>
      obtain ⟨w, hw, time⟩ := Change.work_time ed hrow h touched hf
      obtain ⟨w', hw', time'⟩ := Change.work_time ed hrow' hwork' touched hf
      rw [hw, hw', ← time, ← time']
  · by_cases written : change.Writes s i
    · exact (again i touched).1 written
    · have untouched : ¬ (change.Writes s i ∨ (sv.lifecycleOf s).Touches s i) :=
        not_or.mpr ⟨written, touched⟩
      have off := (Change.work_eqOff ed.sound ed.standard hrow.schema hrow.typed h).1
      rw [(again i touched).2 written, (made.eqOff ed hrow).values i untouched,
        off.values i untouched]

end

theorem Table.replace_replace {id : Value} {stored : Record}
    (same : stored.key.sameKey id = true) (rows : List Record) :
    replace id stored (replace id stored rows) = replace id stored rows := by
  induction rows with
  | nil => rfl
  | cons q rest ih =>
    by_cases here : q.key.sameKey id = true
    · simp [replace, here, same]
    · simp [replace, here, ih]

namespace Store

variable {st st' : Store} {r stored : Record}

theorem update_of_holds (held : (st.table r.schema.collection).holds r.key = true) :
    Store.update r st = (.ok r.stored, st.putTable r.schema.collection
      { st.table r.schema.collection with
        rows := Table.replace r.key r.stored (st.table r.schema.collection).rows }) :=
  change_of_ok (if_pos held)

/-- **A record that is written twice** leaves the store as it was after the first time. -/
theorem update_again (alone : st.Alone r.schema) (ht : r.WellTyped)
    (h : Store.update r st = (.ok stored, st')) : Store.update r st' = (.ok stored, st') := by
  obtain ⟨rfl, key, puts⟩ := update_puts alone ht h
  have same : r.stored.key.sameKey r.key = true := by
    rw [key]
    exact Value.sameKey_self alone.sound.keyKind ht.key
  have held' : (st'.table r.schema.collection).holds r.key = true := by
    rw [Table.holds_eq_isSome, ← key, Except.ok.inj puts.found]
    rfl
  by_cases held : (st.table r.schema.collection).holds r.key = true
  · rw [update_of_holds held] at h
    obtain ⟨-, rfl⟩ := Prod.mk.inj h
    rw [update_of_holds held', table_putTable, if_pos rfl, putTable_putTable,
      Table.replace_replace same]
  · have failed : Store.update r st = (.error (.notFound (.row r.schema.collection)), st) :=
      change_of_error (if_neg held)
    rw [failed] at h
    exact absurd (Prod.mk.inj h).1 (by simp)

end Store

/-! ## Every state -/

namespace Service

variable {sv : Service} {now : Int64} {s : Schema} {body : Json} {resource : String} {id : Value}
  {current r : Record} {st st' : Store}

/-- An update that finds a row and is accepted for it writes what it makes of it. -/
theorem update_of_find? (hs : sv.schema resource .update = .ok s)
    (hfind : (st.table s.collection).find? id = some current)
    (hrev : sv.revised now s body current = .ok r) :
    sv.update now resource id body st = Store.update r st := by
  unfold update
  rw [Action.liftExcept_bind_apply, hs]
  show (fetch s id >>= _) st = _
  rw [Action.bind_apply, fetch_apply, hfind]
  show (liftExcept (sv.revised now s body current) >>= fun r => Store.update r) st = _
  rw [Action.liftExcept_bind_apply, hrev]

/-- **An update makes exactly the merged record.** In every state that requests reach, an update
that succeeds, for a resource that is alone on its collection and whose key is neither declared to
change nor a time, takes a document with members. The record that it answers with holds at every
index what the document, the time and the row give there, and it is found under the key of the row
then. The same update at the same time answers with the same record and leaves the store as it
is. -/
theorem update_revises {d : Descriptor} (hreg : d.resolve = .ok sv.registry) (hstd : sv.Standard)
    {t : Traffic} (ht : Traffic.Reachable sv t) (hs : sv.schema resource .update = .ok s)
    (stamps : sv.lifecycleOf s = .stamped)
    (alone : ∀ s' ∈ sv.registry.schemas, s'.collection = s.collection → s' = s)
    (merge : ¬ s.IsMergeable s.primaryKey) (time : ¬ s.IsTime s.primaryKey) {row : Record}
    (hrow : row ∈ (t.store.table s.collection).rows)
    (h : sv.update now resource row.key body t.store = (.ok r, st')) :
    r.schema = s ∧
    (∃ members, body = .object members ∧ ∀ (i : Nat) (f : Field), s.fields[i]? = some f →
      ∃ v, r.values[i]? = some v ∧ Revises now s members row i f v) ∧
    (Store.find s row.key st').1 = .ok (some r) ∧
    sv.update now resource row.key body st' = (.ok r, st') := by
  have sound := Registry.sound_of_resolve hreg
  obtain ⟨hmem, -⟩ := schema_eq_ok hs
  have ed : sv.Edits s :=
    ⟨sound.schemas s hmem, hstd s hmem, merge, fun updated => time (.inr updated)⟩
  have resolved : ∀ s ∈ sv.registry.schemas, s.Resolved := fun s hs => ⟨d, _, hreg, hs⟩
  have run := Traffic.reachable_store sound hstd ht
  have lone : t.store.Alone s := Store.alone_of_run resolved run hmem alone
  obtain ⟨hschema, collection, typed, settled⟩ :=
    (Traffic.sane_of_run sound hstd ht).rows _ row hrow
  have isRow : row.RowOf s := ⟨alone _ hschema collection, typed, settled⟩
  -- keys do not repeat, so the row that the key finds is the one that has it
  have found : (t.store.table s.collection).find? row.key = some row := by
    obtain ⟨i, there⟩ := List.getElem?_of_mem hrow
    have self := Value.sameKey_self lone.sound.keyKind (lone.keys row hrow)
    exact Table.find?_eq_some.mpr
      ⟨i, (Store.distinct_of_run_alone resolved hmem alone run).first there self⟩
  rcases update_cases h with ⟨⟨failure, failed⟩, -⟩ |
    ⟨s', current, handed, stored, hs', hfind, hrev, answer, hupdate⟩
  · exact absurd failed (by simp)
  obtain rfl := Except.ok.inj (hs.symm.trans hs')
  obtain rfl := Option.some.inj (found.symm.trans hfind)
  obtain rfl := Except.ok.inj answer
  have work : (Change.revision body).work sv now s row = .ok handed := hrev
  obtain ⟨off, typed'⟩ := Change.work_eqOff ed.sound ed.standard isRow.schema isRow.typed work
  have schema : handed.schema = s := off.schema.trans isRow.schema
  obtain ⟨stores, -, puts⟩ := Store.update_puts (schema ▸ lone) typed' hupdate
  have made : Registrar.Makes sv now s (.revision body) row r := ⟨handed, work, stores⟩
  have found' : (Store.find s row.key st').1 = .ok (some r) := by
    rw [← schema, ← made.key ed isRow]
    exact puts.found
  refine ⟨(made.rowOf ed isRow).schema, made.revises ed stamps isRow, found', ?_⟩
  have again : sv.revised now s body r = .ok handed := by
    rw [stores]
    exact Change.work_stored ed isRow work
  rw [update_of_find? hs (Except.ok.inj found') again]
  exact Store.update_again (schema ▸ lone) typed' hupdate

theorem update_revises_firstNote :
    notes.resolve = .ok noteService.registry ∧ noteService.Standard ∧
    noteService.lifecycleOf note = .stamped ∧ ¬ note.IsMergeable note.primaryKey ∧
    ¬ note.IsTime note.primaryKey ∧
    noteService.update 20 "note" (.int 1) (titled "b") (oneNote firstNote) =
      (.ok renamedNote, oneNote renamedNote) ∧
    Revises 20 note [("title", .string "b")] firstNote 3 note.fields[3] (.int 10) ∧
    noteService.update 20 "note" (.int 1) (titled "b") (oneNote renamedNote) =
      (.ok renamedNote, oneNote renamedNote) := by
  have only : ∀ s' ∈ noteService.registry.schemas, s'.collection = note.collection → s' = note :=
    fun s' hs' _ => List.mem_singleton.mp hs'
  have time : ¬ note.IsTime note.primaryKey := by
    rintro (created | updated)
    · exact absurd created (by decide)
    · exact key_of_note_stays.2 updated
  have update : noteService.update 20 "note" (.int 1) (titled "b") (oneNote firstNote) =
      (.ok renamedNote, oneNote renamedNote) := rfl
  obtain ⟨-, ⟨members, object, revises⟩, -, again⟩ := update_revises notes_resolve standard_notes
    reachable_oneNote rfl rfl only key_of_note_stays.1 time (List.mem_singleton_self firstNote)
    update
  obtain rfl := Json.object.inj object
  obtain ⟨v, hv, created⟩ := revises 3 _ rfl
  obtain rfl := Option.some.inj hv
  exact ⟨notes_resolve, standard_notes, rfl, key_of_note_stays.1, time, update, created, again⟩

end Service

end Registrar
