import Registrar.Proofs.Literals
import Registrar.Proofs.Lookups
import Registrar.Proofs.Selection

/-!
# Finding a row and asking for its key

A row is looked up by the key in a path, or asked for by a query with one condition, that the key
is equal to a literal. The text is read by two readers and keys are compared in two ways, and both
agree: the readers refuse the same texts, and as no two rows of a resource that is alone on its
collection have the same key, the query answers with the row that is found, if there is one.

* `Value.equals_eq_sameKey`: among keys of one kind the two comparisons are the same.
* `Table.select_byKey`, `Table.select_byKey_of_unread`: what the query by key answers in a table.
* **`Store.select_agrees_with_find`**: reading fails together, and finding and asking give one row.
-/

namespace Registrar

/-- The query for the row whose key is written as a text. -/
def Query.byKey (s : Schema) (text : String) : Query :=
  { blank with conditions := [⟨s.keyField.name, .eq, .single text⟩] }

/-! ## Comparing keys -/

/-- Keys are of kinds that have an order. -/
theorem Kind.isOrdered_of_isKeyKind {k : Kind} (hk : Descriptor.isKeyKind k = true) :
    k.isOrdered = true := by
  cases k <;> first | rfl | exact absurd hk (by decide)

/-- **Among keys of one kind** a condition and a lookup compare alike. -/
theorem Value.equals_eq_sameKey {k : Kind} (hk : Descriptor.isKeyKind k = true) {v w : Value}
    (hv : v.HasKind k) (hw : w.HasKind k) : v.equals w = v.sameKey w := by
  have ordered := Kind.isOrdered_of_isKeyKind hk
  rw [Bool.eq_iff_iff, sameKey_iff_eq hk hv hw]
  constructor
  · exact fun same => (eq_of_equals same).1
  · rintro rfl
    exact (equals_iff ordered hv hv).mpr rfl

/-- Of members of which only one passes, those that pass are the first one that does. -/
theorem filter_eq_toList_find? {α : Type} {p : α → Bool} : ∀ {l : List α},
    (l.Pairwise fun a b => p a = true → p b = false) → l.filter p = (l.find? p).toList
  | [], _ => rfl
  | a :: l, h => by
    obtain ⟨others, rest⟩ := List.pairwise_cons.mp h
    cases passes : p a with
    | true =>
      have none : l.filter p = [] := List.filter_eq_nil_iff.mpr fun b hb => by
        simp [others b hb passes]
      rw [List.filter_cons_of_pos passes, List.find?_cons_of_pos passes, none]
      rfl
    | false =>
      have fails : ¬ p a = true := by simp [passes]
      rw [List.filter_cons_of_neg fails, List.find?_cons_of_neg fails]
      exact filter_eq_toList_find? rest

/-! ## The query by key -/

section ByKey

variable {s : Schema} {t : Table} {text : String} {id : Value}

theorem Schema.index?_keyField (sound : s.Sound) : s.index? s.keyField.name = some s.primaryKey :=
  (index?_eq_some_iff sound).mpr rfl

/-- A row meets the condition on the key if it has the key. -/
theorem Condition.meets_byKey (sound : s.Sound) {r : Record} (own : r.schema = s)
    (typed : r.WellTyped) (read : Value.parse? s.keyField.kind text = some id) :
    meets s ⟨s.keyField.name, .eq, .single text⟩ r = r.key.sameKey id := by
  subst own
  have value : r.valueAt r.schema.primaryKey = r.key :=
    Option.some.inj ((typed.valueAt r.schema.primaryKey).1.symm.trans r.getElem?_key)
  have kind := Value.hasKind_of_parse? (Kind.isOrdered_of_isKeyKind sound.keyKind) read
  unfold meets
  simp only [Schema.index?_keyField sound, Operand.literals, List.any_cons, List.any_nil,
    Bool.or_false]
  have read' : Value.parse? (r.schema.fields.get r.schema.primaryKey).kind text = some id := read
  rw [read', Option.any_some, value]
  exact Value.equals_eq_sameKey sound.keyKind typed.key kind

theorem Query.shaped_byKey : ∀ c ∈ (byKey s text).conditions, c.Shaped := by
  intro c hc
  rw [List.mem_singleton.mp hc]
  exact fun _ => ⟨text, rfl⟩

theorem Query.plain_byKey (sound : s.Sound) (read : Value.parse? s.keyField.kind text = some id) :
    (byKey s text).Plain s := by
  refine ⟨fun c hc => ?_, fun o none => absurd none (by simp [byKey, blank])⟩
  rw [List.mem_singleton.mp hc]
  refine ⟨s.primaryKey, Schema.index?_keyField sound, Kind.isOrdered_of_isKeyKind sound.keyKind,
    fun text' listed => ⟨id, ?_⟩⟩
  rw [List.mem_singleton.mp listed]
  exact read

theorem Query.matching_byKey (sound : s.Sound) (hrows : RowsIn s t.rows)
    (read : Value.parse? s.keyField.kind text = some id) :
    (byKey s text).matching s t.rows = t.rows.filter fun r => r.key.sameKey id := by
  refine List.filter_congr fun r hr => ?_
  obtain ⟨own, typed⟩ := hrows r hr
  exact (Bool.and_true _).trans (Condition.meets_byKey sound own typed read)

/-- Where keys are apart, the rows with a key are the one that is found under it. -/
theorem Table.filter_sameKey (sound : s.Sound) (hrows : RowsIn s t.rows)
    (apart : Store.Distinct t.keys) (kind : id.HasKind s.keyField.kind) :
    (t.rows.filter fun r => r.key.sameKey id) = (t.find? id).toList := by
  have same : ∀ r ∈ t.rows, r.key.sameKey id = true → r.key = id := by
    intro r hr
    obtain ⟨rfl, typed⟩ := hrows r hr
    exact (Value.sameKey_iff_eq sound.keyKind typed.key kind).mp
  refine filter_eq_toList_find? ((List.pairwise_map.mp apart).imp_of_mem ?_)
  intro a b ha hb other found
  -- a second row with the key would have the key of the first one
  by_contra again
  exact other.1 ((same a ha found).trans (same b hb (eq_true_of_ne_false again)).symm)

/-- **The query by key answers with the row that has the key**, if there is one. -/
theorem Table.select_byKey (sound : s.Sound) (hrows : RowsIn s t.rows)
    (apart : Store.Distinct t.keys) (read : Value.parse? s.keyField.kind text = some id) :
    t.select s (.byKey s text) = .ok (t.find? id).toList := by
  have kind := Value.hasKind_of_parse? (Kind.isOrdered_of_isKeyKind sound.keyKind) read
  rw [select_eq Query.shaped_byKey (Query.plain_byKey sound read) hrows]
  show Except.ok (((Query.byKey s text).matching s t.rows).take Query.defaultLimit) = _
  rw [Query.matching_byKey sound hrows read, filter_sameKey sound hrows apart kind]
  cases t.find? id <;> rfl

/-- **It objects to a text that is no key.** -/
theorem Table.select_byKey_of_unread (sound : s.Sound)
    (unread : Value.parse? s.keyField.kind text = none) : t.select s (.byKey s text) =
      .error (.badRequest (.invalidLiteral s.keyField.name text s.keyField.kind)) := by
  have literal : (s.fields.get s.primaryKey).literal text =
      .error (.badRequest (.invalidLiteral s.keyField.name text s.keyField.kind)) := by
    have unread' : Value.parse? (s.fields.get s.primaryKey).kind text = none := unread
    unfold Field.literal
    rw [unread']
    rfl
  have refused : Filter.ofCondition s ⟨s.keyField.name, .eq, .single text⟩ =
      .error (.badRequest (.invalidLiteral s.keyField.name text s.keyField.kind)) := by
    unfold Filter.ofCondition
    rw [Schema.index?_keyField sound]
    simp only [Operand.literals, List.mapM_cons, literal]
    rfl
  rw [select_eq_bind]
  simp only [Query.byKey, List.mapM_cons, refused]
  rfl

end ByKey

namespace Store

variable {writers : List Schema} {st : Store} {s : Schema}

/-- The rows of a resource that is alone on its collection are its own. -/
theorem rowsIn_of_run (hw : ∀ s ∈ writers, s.Resolved) (hst : Reachable writers st)
    (only : ∀ s' ∈ writers, s'.collection = s.collection → s' = s) :
    RowsIn s (st.table s.collection).rows := by
  intro r hr
  obtain ⟨schema, collection, typed, -⟩ := rowsOf_of_run (fun s hs => (hw s hs).sound) hst _ r hr
  exact ⟨only _ schema collection, typed⟩

/-- **Finding a row and asking for its key agree**, for a resource that is alone on its collection
and whatever calls were made of the store before: a text is no key just if the query objects to it
as a literal, which is all that the query can object to; and where it is one, the query answers with
the row that is found under the key, and with no row if none is. -/
theorem select_agrees_with_find (hw : ∀ s ∈ writers, s.Resolved) (hs : s ∈ writers)
    (only : ∀ s' ∈ writers, s'.collection = s.collection → s' = s) (hst : Reachable writers st)
    (text : String) :
    (∀ failure, Http.Server.parseId s text = .error failure ↔
      failure = .badRequest (.invalidId text) ∧ (Store.select s (.byKey s text) st).1 =
        .error (.badRequest (.invalidLiteral s.keyField.name text s.keyField.kind))) ∧
    (∀ failure, (Store.select s (.byKey s text) st).1 = .error failure →
      failure = .badRequest (.invalidLiteral s.keyField.name text s.keyField.kind)) ∧
    ∀ id, Http.Server.parseId s text = .ok id →
      (∀ r, (Store.find s id st).1 = .ok (some r) ↔
        (Store.select s (.byKey s text) st).1 = .ok [r]) ∧
      ((Store.find s id st).1 = .ok none ↔ (Store.select s (.byKey s text) st).1 = .ok []) := by
  have sound := (hw s hs).sound
  rw [Http.Server.parseId_eq]
  cases read : Value.parse? s.keyField.kind text with
  | none =>
    have refused : (Store.select s (.byKey s text) st).1 =
        .error (.badRequest (.invalidLiteral s.keyField.name text s.keyField.kind)) :=
      Table.select_byKey_of_unread sound read
    rw [refused]
    refine ⟨fun failure => ?_, fun failure failed => (Except.error.inj failed).symm,
      fun id found => absurd found (by simp)⟩
    simp [eq_comm]
  | some id =>
    have rows := rowsIn_of_run hw hst only
    have apart := distinct_of_run_alone hw hs only hst
    have answered : (Store.select s (.byKey s text) st).1 =
        .ok ((st.table s.collection).find? id).toList :=
      Table.select_byKey sound rows apart read
    rw [answered]
    refine ⟨fun failure => by simp, fun failure failed => absurd failed (by simp), ?_⟩
    rintro _ ⟨⟩
    rw [find_fst]
    cases (st.table s.collection).find? id <;> simp

theorem select_agrees_with_find_twoNotes :
    (∀ s ∈ [note], s.Resolved) ∧ Reachable [note] twoNotes ∧
    Http.Server.parseId note " +1" = .ok (.int 1) ∧
    (∃ row, (Store.find note (.int 1) twoNotes).1 = .ok (some row) ∧
      (Store.select note (.byKey note " +1") twoNotes).1 = .ok [row]) ∧
    Http.Server.parseId note "2" = .ok (.int 2) ∧
    (Store.select note (.byKey note "2") twoNotes).1 = .ok [] ∧
    (Store.select note (.byKey note "one") twoNotes).1 =
      .error (.badRequest (.invalidLiteral "id" "one" .int)) := by
  have resolved : ∀ s ∈ [note], s.Resolved := fun s hs =>
    List.mem_singleton.mp hs ▸ resolved_note
  have only : ∀ s' ∈ [note], s'.collection = note.collection → s' = note :=
    fun s' hs' _ => List.mem_singleton.mp hs'
  have agrees := select_agrees_with_find resolved (List.mem_singleton_self note) only
    reachable_twoNotes
  have first : Http.Server.parseId note " +1" = .ok (.int 1) := rfl
  have second : Http.Server.parseId note "2" = .ok (.int 2) := rfl
  have none : Http.Server.parseId note "one" = .error (.badRequest (.invalidId "one")) := rfl
  obtain ⟨row, found⟩ : ∃ row, (Store.find note (.int 1) twoNotes).1 = .ok (some row) := ⟨_, rfl⟩
  refine ⟨resolved, reachable_twoNotes, first, ⟨row, found, ?_⟩, second, ?_, ?_⟩
  · exact (((agrees " +1").2.2 _ first).1 row).mp found
  · exact ((agrees "2").2.2 _ second).2.mp rfl
  · exact (((agrees "one").1 _).mp none).2

end Store

end Registrar
