import Registrar.Proofs.Requests

/-!
# What an update reaches

An update writes what it makes of a row back under the key of what it made. That is the row it
found, if neither a document nor a hook reaches the key, and if the value it was asked for is one
that finds no other row than its own.

* `revision_lands`: what is made of a row is written over it.
* `update_stays`: an update changes no row but the one it is asked for.
* `update_may_stray`: each of the conditions is needed.
-/

namespace Registrar.Service

variable {sv : Service} {now : Int64} {s : Schema} {id : Value} {body : Json} {resource : String}
  {current r stored : Record} {st st' : Store} {i : Nat}

/-- Updates through a resource reach the row that a value finds: the key stays as it is, and the
value is one of the key's kind, or the keys of the collection are all of that kind. -/
structure Reaches (sv : Service) (s : Schema) (id : Value) : Prop where
  key : ¬ sv.Rewrites s s.primaryKey
  value : id.HasKind s.keyField.kind ∨ ∀ s' ∈ sv.registry.schemas,
    s'.collection = s.collection → s'.keyField.kind = s.keyField.kind

/-- The first row with the key of the row that a value finds is that row. -/
theorem Reaches.first (hr : sv.Reaches s id) (hs : s.Sound)
    (hst : st.RowsOf sv.registry.schemas) (hc : current.schema = s) (ht : current.WellTyped)
    (first : Table.FirstWith (st.table s.collection).rows id i current) :
    Table.FirstWith (st.table s.collection).rows current.key i current := by
  subst hc
  have self := Value.sameKey_self hs.keyKind ht.key
  rcases hr.value with kind | one
  · rw [(Value.sameKey_iff_eq hs.keyKind ht.key kind).mp first.same] at self ⊢
    exact first
  · refine ⟨first.row, self, fun j q hj hq => ?_⟩
    obtain ⟨schema, collection, typed, -⟩ := hst _ q (List.mem_of_getElem? hq)
    have hk : q.key.HasKind current.schema.keyField.kind := one _ schema collection ▸ typed.key
    -- an earlier row with the same key would have been found first
    by_contra same
    have equal := (Value.sameKey_iff_eq hs.keyKind hk ht.key).mp (eq_true_of_ne_false same)
    have found := first.same
    rw [← equal, first.earlier j q hj hq] at found
    exact absurd found (by simp)

/-- **What is made of a row is written over it**, and keeps its key. -/
theorem revision_lands (hreg : sv.registry.Sound) (hstd : sv.Standard)
    (hst : st.RowsOf sv.registry.schemas) (hs : s ∈ sv.registry.schemas) (hr : sv.Reaches s id)
    (first : Table.FirstWith (st.table s.collection).rows id i current)
    (hrev : sv.revised now s body current = .ok r)
    (h : Store.update r st = (.ok stored, st')) :
    current.schema = s ∧ current.WellTyped ∧ stored.key = current.key ∧
      ∀ c, (st'.table c).rows =
        if s.collection = c then (st.table c).rows.set i stored else (st.table c).rows := by
  obtain ⟨hcurrent, -, typed, -⟩ := hst _ current (List.mem_of_getElem? first.row)
  have same : current.schema = s := hreg.eq_of_name hcurrent hs (name_of_revised hrev)
  have sound := hreg.schemas s hs
  obtain ⟨off, -⟩ := revised_spec sound (hstd s hs) same typed hrev
  have schema : r.schema = s := off.schema.trans same
  have key : r.key = current.key := off.key (by rw [same]; exact hr.key)
  obtain ⟨t, hupdate, tables⟩ := Store.update_eq_ok h
  obtain ⟨rfl, j, old, written, rows⟩ := Table.update_spec hupdate
  have found := hr.first sound hst same typed first
  rw [schema, key] at written
  obtain ⟨rfl, -⟩ := found.unique written
  refine ⟨same, typed, ?_, fun c => ?_⟩
  · rw [Record.key_stored (by rw [schema]; exact sound.keyPersisted), key]
  · rw [tables, schema]
    split
    · rename_i here
      rw [rows, schema, here]
    · rfl

/-- **An update stays in the row it is asked for.** It adds and removes no row, and changes none but
the first one that has the key asked for, which is the key itself where it is of the kind of keys.
If it succeeds, the record it gives back is what is found under that key then. -/
theorem update_stays {d : Descriptor} (hreg : d.resolve = .ok sv.registry) (hstd : sv.Standard)
    {t : Traffic} (ht : Traffic.Reachable sv t)
    (hr : ∀ s ∈ sv.registry.schemas, s.name = resource → sv.Reaches s id)
    {answer : Except Failure Record}
    (h : sv.update now resource id body t.store = (answer, st')) :
    (∀ c, (st'.table c).rows.length = (t.store.table c).rows.length) ∧
    (∀ (c : String) (i : Nat) (row : Record), (t.store.table c).rows[i]? = some row →
      (st'.table c).rows[i]? = some row ∨
        ∃ s ∈ sv.registry.schemas, s.name = resource ∧ s.collection = c ∧
          Table.FirstWith (t.store.table c).rows id i row ∧
          (id.HasKind s.keyField.kind → row.key = id)) ∧
    (∀ failure, answer = .error failure → st' = t.store) ∧
    ∀ r, answer = .ok r → ∃ s ∈ sv.registry.schemas, s.name = resource ∧
      r.key.sameKey id = true ∧ (id.HasKind s.keyField.kind → r.key = id) ∧
      (st'.table s.collection).find? id = some r := by
  have sound := Registry.sound_of_resolve hreg
  have hst := (Traffic.sane_of_run sound hstd ht).rows
  rcases update_cases h with ⟨⟨failure, rfl⟩, rfl⟩ |
    ⟨s, current, r, stored, hschema, hfind, hrev, rfl, hupdate⟩
  · exact ⟨fun _ => rfl, fun _ _ _ hrow => .inl hrow, fun _ _ => rfl,
      fun r ok => absurd ok (by simp)⟩
  · obtain ⟨hs, name, -⟩ := schema_eq_ok hschema
    obtain ⟨i, first⟩ := Table.find?_eq_some.mp hfind
    obtain ⟨same, typed, key, rows⟩ :=
      revision_lands sound hstd hst hs (hr s hs name) first hrev hupdate
    have equal : id.HasKind s.keyField.kind → current.key = id := fun kind => by
      rw [← same] at kind hs
      exact (Value.sameKey_iff_eq (sound.schemas _ hs).keyKind typed.key kind).mp first.same
    refine ⟨fun c => ?_, fun c k row hrow => ?_, fun failure failed => absurd failed (by simp), ?_⟩
    · rw [rows]
      split
      · exact List.length_set
      · rfl
    · rw [rows]
      split
      · rename_i here
        subst here
        by_cases hk : i = k
        · subst hk
          obtain rfl := Option.some.inj (first.row.symm.trans hrow)
          exact .inr ⟨s, hs, name, rfl, first, equal⟩
        · rw [List.getElem?_set_ne hk]
          exact .inl hrow
      · exact .inl hrow
    · intro r' ok
      obtain rfl := Except.ok.inj ok
      refine ⟨s, hs, name, key ▸ first.same, fun kind => key.trans (equal kind), ?_⟩
      rw [Table.find?_eq_some, rows, if_pos rfl]
      exact ⟨i, first.set key⟩

theorem update_stays_firstNote :
    notes.resolve = .ok noteService.registry ∧ noteService.Standard ∧
    Traffic.Reachable noteService ⟨oneNote firstNote, []⟩ ∧ noteService.Reaches note (.int 1) ∧
    noteService.update 20 "note" (.int 1) (titled "b") (oneNote firstNote) =
      (.ok renamedNote, oneNote renamedNote) ∧
    renamedNote.key = .int 1 ∧
    ((oneNote renamedNote).table "note").find? (.int 1) = some renamedNote := by
  have reaches : noteService.Reaches note (.int 1) := by
    refine ⟨?_, .inl trivial⟩
    rintro (merge | ⟨-, updated⟩)
    · exact key_of_note_stays.1 merge
    · exact key_of_note_stays.2 updated
  have update : noteService.update 20 "note" (.int 1) (titled "b") (oneNote firstNote) =
      (.ok renamedNote, oneNote renamedNote) := rfl
  refine ⟨notes_resolve, standard_notes, reachable_oneNote, reaches, update, ?_⟩
  obtain ⟨-, -, -, given⟩ := update_stays notes_resolve standard_notes reachable_oneNote
    (fun s hs _ => List.mem_singleton.mp hs ▸ reaches) update
  obtain ⟨s, hs, -, -, key, found⟩ := given renamedNote rfl
  obtain rfl := List.mem_singleton.mp hs
  exact ⟨key trivial, found⟩

/-! ## Updates that stray -/

/-- A resolved registry, a state that its service reaches, and an update there that changes a row
with another key than the one it is asked for. -/
def Strays (d : Descriptor) (sv : Service) (st : Store) (now : Int64) (resource : String)
    (id : Value) (body : Json) : Prop :=
  d.resolve = .ok sv.registry ∧ sv.Standard ∧ Traffic.Reachable sv ⟨st, []⟩ ∧
    ∃ (c : String) (i : Nat) (row row' : Record), (st.table c).rows[i]? = some row ∧
      row.key ≠ id ∧ ((sv.update now resource id body st).2.table c).rows[i]? = some row' ∧
      row'.values ≠ row.values

/-- A descriptor of entries: keys of a kind, whether a document may change them, and whether they
are the time of the last change. -/
def entries (kind : Kind) (merge updated : Option String) : Descriptor where
  resources := [{
    name := "entry"
    collection := none
    primaryKey := "id"
    autoKey := false
    created := none
    updated := updated
    softDelete := none
    operations := [.create, .update]
    fields := [noteField "id" kind none merge, noteField "title" .string none (some "true")] }]

/-- The schema of entries. -/
def entry (kind : Kind) (mergeable : Option Bool) (updated : Option (Fin 2)) : Schema where
  name := "entry"
  collection := "entry"
  fields := [noteColumn "id" kind (some "id") mergeable,
    noteColumn "title" .string (some "title") (some true)]
  primaryKey := 0
  autoKey := false
  created := none
  updated := updated
  softDelete := none
  operations := [.create, .update]

/-- The service of entries. -/
def entryService (s : Schema) : Service := ⟨⟨[s]⟩, .stamped, []⟩

/-- A document of an entry. -/
def entryOf (id : UInt64) (title : String) : Json :=
  .object [("id", .number (.nat id)), ("title", .string title)]

/-- The store after two entries were created, one at time 10 and one at time 20. -/
def twoEntries (s : Schema) (a b : UInt64) : Store :=
  ((entryService s).create 20 "entry" (entryOf b "y")
    ((entryService s).create 10 "entry" (entryOf a "x") .empty).2).2

theorem reachable_twoEntries (s : Schema) (a b : UInt64) :
    Traffic.Reachable (entryService s) ⟨twoEntries s a b, []⟩ :=
  .head (.create .start 10 "entry" (entryOf a "x"))
    (.single (.create _ 20 "entry" (entryOf b "y")))

/-- An entry. -/
def entryAt (kind : Kind) (mergeable : Option Bool) (updated : Option (Fin 2)) (key : Value)
    (title : String) : Record :=
  ⟨entry kind mergeable updated, [key, .string title], rfl⟩

/-- **An update may stray** where a document may change the key, where the key is the time of the
last change, and where it is asked for by a value of another kind that is the same key as two. -/
theorem update_may_stray :
    Strays (entries .int (some "true") none) (entryService (entry .int (some true) none))
      (twoEntries (entry .int (some true) none) 3 7) 30 "entry" (.int 3) (entryOf 7 "z") ∧
    Strays (entries .int none (some "id")) (entryService (entry .int none (some 0)))
      (twoEntries (entry .int none (some 0)) 0 0) 20 "entry" (.int 10) (entryOf 0 "z") ∧
    Strays (entries .uint none none) (entryService (entry .uint none none))
      (twoEntries (entry .uint none none) 9007199254740992 9007199254740993) 30 "entry"
      (.int 9007199254740993) (entryOf 0 "z") := by
  refine ⟨⟨by cbv, fun _ _ => .inl rfl, reachable_twoEntries _ _ _, "entry", 1,
      entryAt .int (some true) none (.int 7) "y", entryAt .int (some true) none (.int 7) "z",
      rfl, ?_, rfl, ?_⟩,
    ⟨by cbv, fun _ _ => .inl rfl, reachable_twoEntries _ _ _, "entry", 1,
      entryAt .int none (some 0) (.int 20) "y", entryAt .int none (some 0) (.int 20) "z",
      rfl, ?_, rfl, ?_⟩,
    ⟨by cbv, fun _ _ => .inl rfl, reachable_twoEntries _ _ _, "entry", 0,
      entryAt .uint none none (.uint 9007199254740992) "x",
      entryAt .uint none none (.uint 9007199254740992) "z", rfl, ?_, rfl, ?_⟩⟩
  -- the keys differ from the one asked for, and the titles from one another
  · rintro ⟨⟩
  · simp [entryAt]
  · rintro ⟨⟩
  · simp [entryAt]
  · rintro ⟨⟩
  · simp [entryAt]

end Registrar.Service
