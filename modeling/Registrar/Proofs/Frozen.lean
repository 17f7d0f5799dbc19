import Registrar.Proofs.Requests

/-!
# What a stored record never loses

Where every resource keeps to a collection of its own, and no request changes a key, the copy that
a request holds of a row stays linked to it: other requests may have changed the row since, but only
where a record may change at all (`Linked`). So a write-back finds the row the copy was made of, and
leaves in it everything that no update may change.

* `keeps_step`: one step changes rows only where records may change, and loses none.
* `frozen_forever`: a stored record keeps what it was created with, whatever requests come.
-/

namespace Registrar

open Relation (ReflTransGen)

/-! ## Registries that keep keys -/

/-- Resources have collections of their own, and no change of a record reaches its key. -/
structure Registry.Separate (reg : Registry) : Prop where
  own : ∀ s ∈ reg.schemas, ∀ s' ∈ reg.schemas, s.collection = s'.collection → s = s'
  merge : ∀ s ∈ reg.schemas, ¬ s.IsMergeable s.primaryKey
  updated : ∀ s ∈ reg.schemas, ¬ s.IsUpdated s.primaryKey

namespace Schema

variable {s : Schema}

/-- A flag is no field that holds a key or a time. -/
theorem Sound.not_isSoftDelete (hs : s.Sound) {i : Fin s.fields.length}
    (hi : (s.fields.get i).kind ≠ .bool) : ¬ s.IsSoftDelete i := by
  intro h
  obtain ⟨j, hj, same⟩ := Option.map_eq_some_iff.mp h
  rw [← Fin.ext same] at hi
  exact hi (hs.softDelete j hj)

theorem Sound.not_changes_key (hs : s.Sound) (merge : ¬ s.IsMergeable s.primaryKey)
    (updated : ¬ s.IsUpdated s.primaryKey) : ¬ s.Changes s.primaryKey := by
  have flag : ¬ s.IsSoftDelete s.primaryKey := by
    refine hs.not_isSoftDelete fun bool => ?_
    have key := hs.keyKind
    unfold keyField at key
    rw [bool] at key
    exact absurd key (by decide)
  rintro (h | h | h)
  · exact merge h
  · exact updated h
  · exact flag h

theorem Sound.not_changes_created (hs : s.Sound) {i : Fin s.fields.length}
    (hi : s.created = some i) (merge : ¬ s.IsMergeable i) (updated : ¬ s.IsUpdated i) :
    ¬ s.Changes i := by
  have flag : ¬ s.IsSoftDelete i := by
    refine hs.not_isSoftDelete fun bool => ?_
    have time := hs.created i hi
    rw [bool] at time
    exact absurd time (by decide)
  rintro (h | h | h)
  · exact merge h
  · exact updated h
  · exact flag h

end Schema

namespace Registry.Separate

variable {reg : Registry}

theorem oneKind (h : reg.Separate) : Store.OneKind reg.schemas := by
  intro s hs s' hs' same
  rw [h.own s hs s' hs' same]

theorem not_changes_key (h : reg.Separate) (hreg : reg.Sound) {s : Schema} (hs : s ∈ reg.schemas) :
    ¬ s.Changes s.primaryKey :=
  (hreg.schemas s hs).not_changes_key (h.merge s hs) (h.updated s hs)

end Registry.Separate

/-! ## Rows from step to step -/

namespace Store

variable {st st' st'' : Store}

/-- The rows of a store are still there in another one, each changed only where it may change. -/
def Keeps (st st' : Store) : Prop :=
  ∀ (c : String) (i : Nat) (row : Record), (st.table c).rows[i]? = some row →
    ∃ row', (st'.table c).rows[i]? = some row' ∧ Record.EqOff row.schema.Changes row row'

theorem Keeps.refl (st : Store) : Keeps st st := fun _ _ row hrow => ⟨row, hrow, .refl _ row⟩

theorem Keeps.trans (h : Keeps st st') (h' : Keeps st' st'') : Keeps st st'' := by
  intro c i row hrow
  obtain ⟨row', hrow', off⟩ := h c i row hrow
  obtain ⟨row'', hrow'', off'⟩ := h' c i row' hrow'
  rw [off.schema] at off'
  exact ⟨row'', hrow'', off.trans off'⟩

theorem keeps_insert {writers : List Schema} {r stored : Record} (sound : ∀ s ∈ writers, s.Sound)
    (hr : r.schema ∈ writers) (ht : r.WellTyped) (h : Store.insert r st = (.ok stored, st')) :
    Keeps st st' := by
  obtain ⟨t, hinsert, tables⟩ := insert_eq_ok h
  obtain ⟨-, -, -, rows, -⟩ := Table.insert_spec (sound _ hr) ht hinsert
  intro c i row hrow
  rw [tables]
  split
  · rename_i same
    subst same
    refine ⟨row, ?_, .refl _ row⟩
    rw [rows, List.getElem?_append_left (List.getElem?_eq_some_iff.mp hrow).1, hrow]
  · exact ⟨row, hrow, .refl _ row⟩

/-- Keys that are apart have indexes of their own. -/
theorem Distinct.index_eq {t : Table} (h : Distinct t.keys) {i j : Nat} {a b : Record}
    (ha : t.rows[i]? = some a) (hb : t.rows[j]? = some b) (same : a.key = b.key) : i = j := by
  have nodup : t.keys.Nodup := h.imp fun apart => apart.1
  have hi : t.keys[i]? = some a.key := by rw [t.getElem?_keys, ha]; rfl
  have hj : t.keys[j]? = some a.key := by rw [t.getElem?_keys, hb, same]; rfl
  exact (List.getElem?_inj (List.getElem?_eq_some_iff.mp hi).1 nodup).mp (hi.trans hj.symm)

/-- An update keeps the rows if what it writes was made of the row with its key. -/
theorem keeps_update {writers : List Schema} {r stored row : Record} {i : Nat}
    (sound : ∀ s ∈ writers, s.Sound) (one : OneKind writers) (hst : RowsOf writers st)
    (distinct : Distinct (st.table r.schema.collection).keys) (hr : r.schema ∈ writers)
    (ht : r.WellTyped) (hrow : (st.table r.schema.collection).rows[i]? = some row)
    (off : Record.EqOff row.schema.Changes row r) (hkey : r.key = row.key)
    (h : Store.update r st = (.ok stored, st')) : Keeps st st' := by
  obtain ⟨t, hupdate, tables⟩ := update_eq_ok h
  obtain ⟨rfl, j, old, first, rows⟩ := Table.update_spec hupdate
  have there : i = j := by
    have kind := hasKind_key one hst hr old (List.mem_of_getElem? first.row)
    have same : old.key = r.key :=
      (Value.sameKey_iff_eq (sound _ hr).keyKind kind ht.key).mp first.same
    exact distinct.index_eq hrow first.row (hkey.symm.trans same.symm)
  subst there
  obtain rfl : row = old := Option.some.inj (hrow.symm.trans first.row)
  obtain ⟨-, -, -, settled⟩ := hst _ row (List.mem_of_getElem? hrow)
  intro c k q hq
  rw [tables]
  split
  · rename_i same
    subst same
    rw [rows, List.getElem?_set]
    split
    · rename_i here
      subst here
      obtain rfl : row = q := Option.some.inj (hrow.symm.trans hq)
      rw [if_pos (List.getElem?_eq_some_iff.mp hrow).1]
      exact ⟨_, rfl, off.stored settled⟩
    · exact ⟨q, hq, .refl _ q⟩
  · exact ⟨q, hq, .refl _ q⟩

end Store

/-! ## Copies and rows -/

namespace Traffic

variable {sv : Service} {t t' : Traffic}

/-- The row that a copy was made of, as it has become since. -/
def Linked (st : Store) (p : Pending) : Prop :=
  ∃ (i : Nat) (row : Record), (st.table p.current.schema.collection).rows[i]? = some row ∧
    Record.EqOff row.schema.Changes row p.current

theorem Linked.mono {st st' : Store} {p : Pending} (h : Linked st p) (hk : st.Keeps st') :
    Linked st' p := by
  obtain ⟨i, row, hrow, off⟩ := h
  obtain ⟨row', hrow', off'⟩ := hk _ i row hrow
  refine ⟨i, row', hrow', ?_⟩
  rw [off'.schema]
  exact off'.symm.trans off

/-- One step changes rows only where records may change, and loses none. -/
theorem keeps_step (hreg : sv.registry.Sound) (hsep : sv.registry.Separate) (hstd : sv.Standard)
    (ht : Reachable sv t) (linked : ∀ p ∈ t.pending, Linked t.store p) (h : Step sv t t') :
    t.store.Keeps t'.store := by
  have sane := sane_of_run hreg hstd ht
  have stored := reachable_store hreg hstd ht
  cases h with
  | create t now resource body =>
    rcases Service.create_cases (Prod.eta _).symm with ⟨-, unchanged⟩ | ⟨s, r, q, hs, hr, -, h⟩
    · rw [unchanged]
      exact .refl _
    · obtain ⟨hs, -, -⟩ := Service.schema_eq_ok hs
      obtain ⟨rfl, typed⟩ := Service.created_spec (hstd _ hs) hr
      exact Store.keeps_insert hreg.schemas hs typed h
  | find t change hs hfind =>
    rw [(Service.fetch_eq_ok.mp hfind).2]
    exact .refl _
  | write st before after p now =>
    rcases Pending.write_cases (Prod.eta _).symm with ⟨-, unchanged⟩ | ⟨r, q, hwork, -, h⟩
    · rw [unchanged]
      exact .refl _
    · have under : p ∈ before ++ p :: after := List.mem_append_right _ List.mem_cons_self
      have fits := sane.pending p under
      obtain ⟨off, typed⟩ := Pending.work_spec hreg hstd fits hwork
      obtain ⟨i, row, hrow, link⟩ := linked p under
      have whole := link.trans (link.schema ▸ off)
      have key : r.key = row.key := by
        refine whole.key ?_
        rw [← link.schema]
        exact hsep.not_changes_key hreg fits.current
      rw [← off.schema] at hrow
      exact Store.keeps_update hreg.schemas hsep.oneKind sane.rows
        (Store.distinct_of_run hreg.schemas hsep.oneKind stored _) (off.schema ▸ fits.current) typed
        hrow whole key h

/-- **Every copy stays linked to its row.** -/
theorem linked_of_run (hreg : sv.registry.Sound) (hsep : sv.registry.Separate)
    (hstd : sv.Standard) (ht : Reachable sv t) : ∀ p ∈ t.pending, Linked t.store p := by
  induction ht with
  | refl => exact fun p hp => absurd hp List.not_mem_nil
  | tail run step ih =>
    have keeps := keeps_step hreg hsep hstd run ih step
    have rows := (sane_of_run hreg hstd run).rows
    cases step with
    | create t now resource body => exact fun p hp => (ih p hp).mono keeps
    | find t change hs hfind =>
      rw [List.forall_mem_cons]
      refine ⟨?_, fun p hp => (ih p hp).mono keeps⟩
      obtain ⟨found, rfl⟩ := Service.fetch_eq_ok.mp hfind
      obtain ⟨i, first⟩ := Table.find?_eq_some.mp found
      obtain ⟨-, collection, -, -⟩ := rows _ _ (List.mem_of_getElem? first.row)
      exact ⟨i, _, collection.symm ▸ first.row, .refl _ _⟩
    | write st before after p now =>
      intro q hq
      refine (ih q ?_).mono keeps
      rcases List.mem_append.mp hq with hq | hq
      · exact List.mem_append_left _ hq
      · exact List.mem_append_right _ (List.mem_cons_of_mem _ hq)

theorem keeps_of_run (hreg : sv.registry.Sound) (hsep : sv.registry.Separate)
    (hstd : sv.Standard) (ht : Reachable sv t) (h : ReflTransGen (Step sv) t t') :
    t.store.Keeps t'.store := by
  induction h with
  | refl => exact .refl _
  | tail run step ih =>
    exact ih.trans (keeps_step hreg hsep hstd (ht.trans run)
      (linked_of_run hreg hsep hstd (ht.trans run)) step)

/-! ## Forever -/

/-- What a stored record still is after any number of changes: of its resource, under its key, and
with its values in the fields that no update may change. Among these are its time of creation and
the fields that documents do not show. -/
structure Remains (row row' : Record) : Prop where
  schema : row'.schema = row.schema
  key : row'.key = row.key
  frozen : ∀ i, ¬ row.schema.IsMergeable i → ¬ row.schema.IsUpdated i →
    ¬ row.schema.IsSoftDelete i → row'.values[i]? = row.values[i]?
  created : ∀ i, row.schema.created = some i → ¬ row.schema.IsMergeable i →
    ¬ row.schema.IsUpdated i → row'.values[i.val]? = row.values[i.val]?
  hidden : ∀ i f, row.schema.fields[i]? = some f → f.jsonKey = none →
    ¬ row.schema.IsMergeable i → ¬ row.schema.IsUpdated i → ¬ row.schema.IsSoftDelete i →
    row'.values[i]? = row.values[i]?

theorem Remains.of_eqOff {row row' : Record} (sound : row.schema.Sound)
    (hkey : ¬ row.schema.Changes row.schema.primaryKey)
    (off : Record.EqOff row.schema.Changes row row') : Remains row row' := by
  have frozen : ∀ i, ¬ row.schema.IsMergeable i → ¬ row.schema.IsUpdated i →
      ¬ row.schema.IsSoftDelete i → row'.values[i]? = row.values[i]? := by
    intro i merge updated flag
    refine off.values i ?_
    rintro (h | h | h)
    · exact merge h
    · exact updated h
    · exact flag h
  exact ⟨off.schema, off.key hkey, frozen,
    fun i hi merge updated => off.values i (sound.not_changes_created hi merge updated),
    fun i _ _ _ => frozen i⟩

/-- **A stored record keeps what no update may change.** However the steps of the requests to come
fall between one another, each row that is stored now remains at its index, and so does each record
from the moment it is created. -/
theorem frozen_forever {d : Descriptor} (hreg : d.resolve = .ok sv.registry)
    (hsep : sv.registry.Separate) (hstd : sv.Standard) (ht : Reachable sv t) :
    (∀ t', ReflTransGen (Step sv) t t' → ∀ (c : String) (i : Nat) (row : Record),
      (t.store.table c).rows[i]? = some row →
        ∃ row', (t'.store.table c).rows[i]? = some row' ∧ Remains row row') ∧
    ∀ now resource body r st', sv.create now resource body t.store = (.ok r, st') →
      ∀ t', ReflTransGen (Step sv) ⟨st', t.pending⟩ t' →
        ∃ row', (t'.store.table r.schema.collection).rows[
          (t.store.table r.schema.collection).rows.length]? = some row' ∧ Remains r row' := by
  have sound := Registry.sound_of_resolve hreg
  have stored : ∀ {t t' : Traffic}, Reachable sv t → ReflTransGen (Step sv) t t' →
      ∀ (c : String) (i : Nat) (row : Record), (t.store.table c).rows[i]? = some row →
        ∃ row', (t'.store.table c).rows[i]? = some row' ∧ Remains row row' := by
    intro t t' ht later c i row hrow
    obtain ⟨row', hrow', off⟩ := keeps_of_run sound hsep hstd ht later c i row hrow
    obtain ⟨hschema, -⟩ := (sane_of_run sound hstd ht).rows c row (List.mem_of_getElem? hrow)
    have key := hsep.not_changes_key sound hschema
    exact ⟨row', hrow', .of_eqOff (sound.schemas _ hschema) key off⟩
  refine ⟨fun t' later => stored ht later, fun now resource body r st' h t' later => ?_⟩
  have created : Step sv t ⟨st', t.pending⟩ := by
    have step : Step sv t _ := .create t now resource body
    rw [h] at step
    exact step
  refine stored (ht.tail created) later _ _ r ?_
  -- the new row is the last one
  rcases Service.create_cases h with ⟨⟨failure, failed⟩, -⟩ | ⟨s, r', q, hs, hr, answer, hinsert⟩
  · exact absurd failed (by simp)
  · obtain rfl := Except.ok.inj answer
    obtain ⟨hs, -, -⟩ := Service.schema_eq_ok hs
    obtain ⟨rfl, typed⟩ := Service.created_spec (hstd _ hs) hr
    obtain ⟨table, hinsert, tables⟩ := Store.insert_eq_ok hinsert
    obtain ⟨schema, -, -, rows, -⟩ := Table.insert_spec (sound.schemas _ hs) typed hinsert
    rw [schema, tables, if_pos rfl, rows, List.getElem?_append_right (Nat.le_refl _), Nat.sub_self]
    rfl

/-! ### A note deleted while it is being changed -/

/-- The first note deleted at time 30, by a request that did not see it renamed. -/
def deletedNote : Record :=
  ⟨note, [.int 1, .string "a", .string "", .int 10, .int 30, .bool true], rfl⟩

theorem separate_notes : noteService.registry.Separate := by
  refine ⟨fun s hs s' hs' _ => ?_, fun s hs => ?_, fun s hs => ?_⟩
  · rw [List.mem_singleton.mp hs, List.mem_singleton.mp hs']
  · rw [List.mem_singleton.mp hs]
    exact key_of_note_stays.1
  · rw [List.mem_singleton.mp hs]
    exact key_of_note_stays.2

/-- Both requests find the note before either writes. -/
theorem deleted_beside_renamed :
    ReflTransGen (Step noteService) ⟨oneNote firstNote, []⟩ ⟨oneNote deletedNote, []⟩ := by
  have found : Service.fetch note (.int 1) (oneNote firstNote) =
      (.ok firstNote, oneNote firstNote) := rfl
  have find : ∀ (change : Change) (ps : List Pending), noteService.schema "note" change.operation =
      .ok note → Step noteService ⟨oneNote firstNote, ps⟩
        ⟨oneNote firstNote, ⟨note, change, firstNote⟩ :: ps⟩ := fun change ps hs =>
    .find ⟨oneNote firstNote, ps⟩ change hs found
  have write : ∀ (r r' : Record) (p : Pending) (ps : List Pending) (now : Int64),
      (p.write noteService now (oneNote r)).2 = oneNote r' →
        Step noteService ⟨oneNote r, p :: ps⟩ ⟨oneNote r', ps⟩ := fun r r' p ps now h =>
    h ▸ Step.write (oneNote r) [] ps p now
  refine .head (find .deletion [] rfl) (.head (find (.revision (titled "b")) _ rfl) ?_)
  refine .head (write firstNote renamedNote _ _ 20 rfl) (.single ?_)
  exact write renamedNote deletedNote _ _ 30 rfl

theorem frozen_forever_firstNote :
    notes.resolve = .ok noteService.registry ∧ noteService.registry.Separate ∧
    noteService.Standard ∧ Reachable noteService start ∧
    noteService.create 10 "note" (titled "a") .empty = (.ok firstNote, oneNote firstNote) ∧
    ∃ row', ((oneNote deletedNote).table "note").rows[0]? = some row' ∧ Remains firstNote row' := by
  refine ⟨notes_resolve, separate_notes, standard_notes, .refl, rfl, ?_⟩
  exact (frozen_forever notes_resolve separate_notes standard_notes .refl).2 10 "note" (titled "a")
    firstNote (oneNote firstNote) rfl _ deleted_beside_renamed

end Traffic

end Registrar
