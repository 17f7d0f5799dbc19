import Registrar.Proofs.Clauses

/-!
# Columns that a database takes

A database takes a write only if it names a column, and none of them twice. An update that is
rendered always sets a column: where there is none to set, the row is only read. Nothing else is
seen to. A resource whose key is all that it keeps inserts nothing where the key is left to the
database, and what names the fields of a resource tells their names apart, not their columns, so
that two fields may have one column.

* `Statement.insert_takes_iff`, `Statement.update_takes_iff`: when what is rendered for a record
  names a column, and none twice.
* **`Schema.written_iff`**: when all that is rendered for a resource does.
* `Schema.resolve_admits_unwritten`: not every resource that resolves is one of these.
-/

namespace Registrar

/-- Fields at some indexes have a column each of their own. -/
def Schema.Apart (s : Schema) (is : List (Fin s.fields.length)) : Prop :=
  ∀ i ∈ is, ∀ j ∈ is, (s.fields.get i).columnName = (s.fields.get j).columnName → i = j

/-- The indexes of the fields that have a column. -/
def Schema.kept (s : Schema) : List (Fin s.fields.length) :=
  (List.finRange s.fields.length).filter fun i => (s.fields.get i).isPersisted

namespace Statement

/-- A database takes columns of a write if there is one, and none comes twice. -/
structure Takes (columns : List String) : Prop where
  named : columns ≠ []
  once : columns.Nodup

variable {r : Record} {s : Schema} {st : Statement}

theorem columnsAt_eq_nil {is : List (Fin s.fields.length)} : columnsAt s is = [] ↔ is = [] :=
  List.map_eq_nil_iff

theorem nodup_columnsAt {is : List (Fin s.fields.length)} (once : is.Nodup) :
    (columnsAt s is).Nodup ↔ s.Apart is :=
  List.nodup_map_iff_inj_on once

theorem nodup_inserts (r : Record) : r.inserts.Nodup := (List.nodup_finRange _).filter _

theorem nodup_updates (s : Schema) : s.updates.Nodup := (List.nodup_finRange _).filter _

/-! ## What a record inserts -/

/-- Nothing is inserted just if the key is left out and there is no other column. -/
theorem inserts_eq_nil_iff (hs : r.schema.Sound) :
    r.inserts = [] ↔ Table.wantsKey r = true ∧ r.schema.updates = [] := by
  constructor
  · intro none
    refine ⟨(Record.primaryKey_notMem_inserts hs).mp (by simp [none]), ?_⟩
    refine List.eq_nil_iff_forall_not_mem.mpr fun i hi => ?_
    obtain ⟨persisted, other⟩ := Schema.mem_updates.mp hi
    have carried : i ∈ r.inserts :=
      Record.mem_inserts.mpr ⟨persisted, fun same => absurd same other⟩
    simp [none] at carried
  · rintro ⟨wants, bare⟩
    refine List.eq_nil_iff_forall_not_mem.mpr fun i hi => ?_
    obtain ⟨persisted, carried⟩ := Record.mem_inserts.mp hi
    by_cases key : i = r.schema.primaryKey
    · simp [carried key] at wants
    · have set : i ∈ r.schema.updates := Schema.mem_updates.mpr ⟨persisted, key⟩
      simp [bare] at set

theorem inserts_subset_kept (r : Record) : r.inserts ⊆ r.schema.kept := by
  intro i hi
  exact List.mem_filter.mpr ⟨List.mem_finRange i, (Record.mem_inserts.mp hi).1⟩

theorem updates_subset_kept (s : Schema) : s.updates ⊆ s.kept := by
  intro i hi
  exact List.mem_filter.mpr ⟨List.mem_finRange i, (Schema.mem_updates.mp hi).1⟩

/-- A record that brings its key inserts all that has a column. -/
theorem inserts_eq_kept (brings : Table.wantsKey r = false) : r.inserts = r.schema.kept := by
  unfold Record.inserts Schema.kept
  simp [brings]

/-- **When a database takes an insertion**: unless the key is left out and there is no other column,
or two of the fields that are inserted have one column. -/
theorem insert_takes_iff (hs : r.schema.Sound) (h : insert r = .ok st) :
    ∃ columns, (read? st.text).bind inserted? = some columns ∧
      (Takes columns ↔ ¬ (Table.wantsKey r = true ∧ r.schema.updates = []) ∧
        r.schema.Apart r.inserts) := by
  refine ⟨_, inserted?_of_insert hs h, ?_⟩
  rw [← inserts_eq_nil_iff hs, ← columnsAt_eq_nil, ← nodup_columnsAt (nodup_inserts r)]
  exact ⟨fun takes => ⟨takes.named, takes.once⟩, fun ⟨named, once⟩ => ⟨named, once⟩⟩

/-- **When a database takes an update**: unless two of the fields that are set have one column. It
is an update just if there is a field to set. -/
theorem update_takes_iff (h : update r = .ok st) :
    ((read? st.text).bind set? = none ↔ r.schema.updates = []) ∧
    ∀ columns, (read? st.text).bind set? = some columns →
      columns ≠ [] ∧ (Takes columns ↔ r.schema.Apart r.schema.updates) := by
  rw [set?_of_update h]
  by_cases bare : r.schema.updates = []
  · rw [if_pos bare]
    exact ⟨iff_of_true rfl bare, fun columns set => absurd set (by simp)⟩
  · rw [if_neg bare]
    refine ⟨iff_of_false (by simp) bare, fun columns set => ?_⟩
    obtain rfl := Option.some.inj set
    have named : columnsAt r.schema r.schema.updates ≠ [] := mt columnsAt_eq_nil.mp bare
    rw [← nodup_columnsAt (nodup_updates r.schema)]
    exact ⟨named, fun takes => takes.once, fun once => ⟨named, once⟩⟩

end Statement

namespace Schema

open Statement

variable {s : Schema}

/-- A database takes all that is rendered to write a record of a resource. -/
structure Written (s : Schema) : Prop where
  insert : ∀ r : Record, r.schema = s → r.WellTyped → ∀ st, Statement.insert r = .ok st →
    ∃ columns, (read? st.text).bind inserted? = some columns ∧ Takes columns
  update : ∀ r : Record, r.schema = s → r.WellTyped → ∀ st, Statement.update r = .ok st →
    ∀ columns, (read? st.text).bind set? = some columns → Takes columns

/-! ## Records to try -/

/-- A key that is not zero. -/
def someKey : Kind → Value
  | .string => .string "1"
  | .uint => .uint 1
  | _ => .int 1

/-- A record that brings a key, and is blank besides. -/
def keyed (s : Schema) : Record := (Record.blank s).put s.primaryKey (someKey s.keyField.kind)

theorem hasKind_someKey {k : Kind} (hk : Descriptor.isKeyKind k = true) :
    (someKey k).HasKind k := by
  cases k <;> trivial

theorem wellTyped_keyed (hs : s.Sound) : s.keyed.WellTyped :=
  (Record.wellTyped_blank s).put (hasKind_someKey hs.keyKind)

theorem wantsKey_keyed (s : Schema) : Table.wantsKey s.keyed = false := by
  have key : s.keyed.key = someKey s.keyField.kind := (Record.blank s).key_put _
  have brought : ∀ k, (someKey k).isZero = false := fun k => by cases k <;> rfl
  unfold Table.wantsKey
  rw [key, brought, Bool.and_false]

theorem value_blank (s : Schema) (i : Fin s.fields.length) :
    (Record.blank s).value i = .zero (s.fields.get i).kind := by
  have blank : (Record.blank s).values[i.val]? = some (.zero (s.fields.get i).kind) := by
    show (s.fields.map fun f => Value.zero f.kind)[i.val]? = _
    rw [List.getElem?_map, s.getElem?_fields i]
    rfl
  exact Option.some.inj (((Record.blank s).getElem?_values i).symm.trans blank)

theorem wantsKey_blank (hs : s.Sound) (auto : s.autoKey = true) :
    Table.wantsKey (.blank s) = true := by
  have zero : ∀ k, Descriptor.isKeyKind k = true → (Value.zero k).isZero = true := fun k hk => by
    cases k <;> trivial
  have key : (Record.blank s).key = .zero s.keyField.kind := value_blank s s.primaryKey
  unfold Table.wantsKey
  rw [key, zero _ hs.keyKind, Bool.and_true]
  exact auto

/-- A record without great numbers is rendered. -/
theorem exists_insert {r : Record} (hs : r.schema.Sound) (small : ∀ i n, ¬ (r.value i).Exceeds n) :
    ∃ st, Statement.insert r = .ok st := by
  cases rendered : Statement.insert r with
  | ok st => exact ⟨st, rfl⟩
  | error failure =>
    obtain ⟨i, -, n, exceeds⟩ := (carries_insert hs).fails_iff.mp ⟨failure, rendered⟩
    exact absurd exceeds (small i n)

theorem not_exceeds_blank (s : Schema) (i : Fin s.fields.length) (n : UInt64) :
    ¬ ((Record.blank s).value i).Exceeds n := by
  rintro ⟨value, great⟩
  rw [value_blank] at value
  cases kind : (s.fields.get i).kind <;> rw [kind] at value <;> cases value
  exact absurd great (by decide)

theorem not_exceeds_keyed (s : Schema) (i : Fin s.fields.length) (n : UInt64) :
    ¬ (s.keyed.value i).Exceeds n := by
  have put := (Record.blank s).getElem?_put s.primaryKey (someKey s.keyField.kind) i.val
  have held := s.keyed.getElem?_values i
  rw [show s.keyed.values[i.val]? = _ from put] at held
  split at held
  · rintro ⟨value, great⟩
    rw [← Option.some.inj held] at value
    cases kind : s.keyField.kind <;> rw [kind] at value <;> cases value
    exact absurd great (by decide)
  · have same : s.keyed.value i = (Record.blank s).value i :=
      Option.some.inj (held.symm.trans ((Record.blank s).getElem?_values i))
    rw [same]
    exact not_exceeds_blank s i n

theorem insert_takes_of_written (hs : s.Sound) (written : s.Written) {r : Record}
    (own : r.schema = s) (typed : r.WellTyped) (small : ∀ i n, ¬ (r.value i).Exceeds n) :
    ¬ (Table.wantsKey r = true ∧ r.schema.updates = []) ∧ r.schema.Apart r.inserts := by
  subst own
  obtain ⟨st, rendered⟩ := exists_insert hs small
  obtain ⟨columns, read, takes⟩ := written.insert r rfl typed st rendered
  obtain ⟨columns', read', iff⟩ := insert_takes_iff hs rendered
  obtain rfl := Option.some.inj (read.symm.trans read')
  exact iff.mp takes

/-- **When a database takes what is rendered for a resource.** It takes the insertion of a record
unless the key is left out and there is no other column, or two of the fields inserted have one
column; it takes an update, which always sets something, unless two of the fields set have one
column; and it takes whatever is rendered just if no two fields of the resource have one column and,
where the key may be left out, something besides the key has one. -/
theorem written_iff (resolved : s.Resolved) :
    (∀ r : Record, r.schema = s → ∀ st, Statement.insert r = .ok st →
      ∃ columns, (read? st.text).bind inserted? = some columns ∧
        (Takes columns ↔ ¬ (Table.wantsKey r = true ∧ r.schema.updates = []) ∧
          r.schema.Apart r.inserts)) ∧
    (∀ r : Record, r.schema = s → ∀ st, Statement.update r = .ok st →
      ((read? st.text).bind set? = none ↔ r.schema.updates = []) ∧
      ∀ columns, (read? st.text).bind set? = some columns →
        columns ≠ [] ∧ (Takes columns ↔ r.schema.Apart r.schema.updates)) ∧
    (s.Written ↔ s.Apart s.kept ∧ (s.autoKey = true → s.updates ≠ [])) := by
  have hs := resolved.sound
  refine ⟨?_, ?_, ?_, ?_⟩
  · rintro r rfl st rendered
    exact insert_takes_iff hs rendered
  · rintro r rfl st rendered
    exact update_takes_iff rendered
  · intro written
    constructor
    · have apart := (insert_takes_of_written hs written (r := s.keyed) rfl (wellTyped_keyed hs)
        (not_exceeds_keyed s)).2
      rw [inserts_eq_kept (wantsKey_keyed s)] at apart
      exact apart
    · intro auto bare
      have named := (insert_takes_of_written hs written (r := .blank s) rfl
        (Record.wellTyped_blank s) (not_exceeds_blank s)).1
      exact named ⟨wantsKey_blank hs auto, bare⟩
  · rintro ⟨apart, beside⟩
    refine ⟨?_, ?_⟩
    · rintro r rfl - st rendered
      obtain ⟨columns, read, iff⟩ := insert_takes_iff hs rendered
      refine ⟨columns, read, iff.mpr ⟨fun ⟨wants, bare⟩ => ?_, fun i hi j hj same => ?_⟩⟩
      · exact beside (Bool.and_eq_true_iff.mp wants).1 bare
      · exact apart i (inserts_subset_kept r hi) j (inserts_subset_kept r hj) same
    · rintro r rfl - st rendered columns set
      obtain ⟨-, iff⟩ := (update_takes_iff rendered).2 columns set
      refine iff.mpr fun i hi j hj same => ?_
      exact apart i (updates_subset_kept _ hi) j (updates_subset_kept _ hj) same

theorem written_iff_note :
    note.Resolved ∧ note.Written ∧ ∃ st, Statement.insert (.blank note) = .ok st ∧
      (read? st.text).bind inserted? = some ["title", "owner", "made", "changed", "gone"] ∧
      Takes ["title", "owner", "made", "changed", "gone"] := by
  obtain ⟨inserting, -, iff⟩ := written_iff resolved_note
  have written := iff.mpr ⟨by unfold Apart; decide, fun _ => by decide⟩
  obtain ⟨st, rendered⟩ : ∃ st, Statement.insert (.blank note) = .ok st := ⟨_, rfl⟩
  have read := inserted?_of_insert (r := .blank note) resolved_note.sound rendered
  obtain ⟨columns, read', takes⟩ :=
    written.insert (.blank note) rfl (Record.wellTyped_blank note) st rendered
  obtain rfl := Option.some.inj (read.symm.trans read')
  exact ⟨resolved_note, written, st, rendered, read, takes⟩

/-! ## Resources whose writes are not taken -/

/-- A descriptor of one resource, whose keys the store assigns. -/
def single (name : String) (operations : List Operation) (fields : List Descriptor.Field) :
    Descriptor where
  resources := [{
    name := name
    collection := none
    primaryKey := "id"
    autoKey := true
    created := none
    updated := none
    softDelete := none
    operations := operations
    fields := noteField "id" .int none none :: fields }]

/-- A resource that keeps its key alone. -/
def tags : Descriptor := single "tag" [.create] []

/-- A field with the name of another one's column. -/
def label : Descriptor.Field := { noteField "label" .string none none with column := some "text" }

/-- A resource of which two fields have one column. -/
def badges : Descriptor :=
  single "badge" [.create, .update] [label, noteField "text" .string none none]

def tag : Schema where
  name := "tag"
  collection := "tag"
  fields := [noteColumn "id" .int (some "id") none]
  primaryKey := ⟨0, by decide⟩
  autoKey := true
  created := none
  updated := none
  softDelete := none
  operations := [.create]

def labelColumn : Field :=
  { noteColumn "label" .string (some "label") none with column := some "text" }

def badge : Schema where
  name := "badge"
  collection := "badge"
  fields := [noteColumn "id" .int (some "id") none, labelColumn,
    noteColumn "text" .string (some "text") none]
  primaryKey := ⟨0, by decide⟩
  autoKey := true
  created := none
  updated := none
  softDelete := none
  operations := [.create, .update]

theorem tags_resolve : tags.resolve = .ok ⟨[tag]⟩ := by cbv

theorem label_resolve : label.resolve "badge" = .ok labelColumn := by
  have column : Key.choose (some "text") "label" = some "text" := by decide
  unfold label Descriptor.Field.resolve
  simp only [noteField, column]
  cbv

theorem badges_resolve : badges.resolve = .ok ⟨[badge]⟩ := by
  have checked : badges.check = .ok () := by cbv
  unfold Descriptor.resolve
  rw [checked]
  simp only [badges, single, Descriptor.Resource.resolve, List.mapM_cons, label_resolve]
  cbv

/-- **Not everything that resolves is taken**: an insertion may name no column, and a write may name
one twice. -/
theorem resolve_admits_unwritten :
    tags.resolve = .ok ⟨[tag]⟩ ∧ badges.resolve = .ok ⟨[badge]⟩ ∧
    (∃ st, Statement.insert (.blank tag) = .ok st ∧
      st.text = "INSERT INTO \"tag\" () VALUES () RETURNING \"id\"" ∧
      (read? st.text).bind inserted? = some []) ∧
    (∃ st, Statement.insert (.blank badge) = .ok st ∧
      st.text = "INSERT INTO \"badge\" (\"text\", \"text\") VALUES ($1::text, $2::text) "
        ++ "RETURNING \"id\", \"text\", \"text\"" ∧
      (read? st.text).bind inserted? = some ["text", "text"]) ∧
    (∃ st, Statement.update badge.keyed = .ok st ∧
      st.text = "UPDATE \"badge\" SET \"text\" = $1::text, \"text\" = $2::text "
        ++ "WHERE \"id\" = $3::bigint RETURNING \"id\", \"text\", \"text\"" ∧
      (read? st.text).bind set? = some ["text", "text"]) ∧
    ¬ tag.Written ∧ ¬ badge.Written := by
  have resolved : tag.Resolved ∧ badge.Resolved :=
    ⟨⟨tags, _, tags_resolve, List.mem_singleton_self _⟩,
      ⟨badges, _, badges_resolve, List.mem_singleton_self _⟩⟩
  refine ⟨tags_resolve, badges_resolve, ⟨_, rfl, by cbv, ?_⟩, ⟨_, rfl, by rfl, ?_⟩,
    ⟨_, rfl, by decide, ?_⟩, ?_, ?_⟩
  · exact inserted?_of_insert (r := .blank tag) resolved.1.sound rfl
  · exact inserted?_of_insert (r := .blank badge) resolved.2.sound rfl
  · exact set?_of_update (r := badge.keyed) rfl
  · intro written
    obtain ⟨columns, read, takes⟩ :=
      written.insert (.blank tag) rfl (Record.wellTyped_blank tag) _ rfl
    have none := inserted?_of_insert (r := .blank tag) resolved.1.sound rfl
    obtain rfl := Option.some.inj (none.symm.trans read)
    exact takes.named rfl
  · intro written
    obtain ⟨columns, read, takes⟩ :=
      written.insert (.blank badge) rfl (Record.wellTyped_blank badge) _ rfl
    have twice := inserted?_of_insert (r := .blank badge) resolved.2.sound rfl
    obtain rfl := Option.some.inj (twice.symm.trans read)
    exact absurd takes.once (by decide)

end Schema

end Registrar
