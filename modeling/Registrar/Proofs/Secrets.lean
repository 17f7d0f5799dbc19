import Registrar.Http.Server
import Registrar.Proofs.Serving
import Registrar.Proofs.Sorted

/-!
# What requests tell of hidden fields

A field without a document key never shows in a document. Still a list may ask for the rows by it,
since parameters name fields as well as keys, and then tells something of its values. Nothing else
does: two stores that differ in hidden values only give one answer to a read, and to a list that
neither filters nor orders by a hidden field (`Query.Open`).

* `Record.SameShown.toJson_eq`, `Record.SameShown.project_eq`: hidden values are in no document.
* `Table.select_shown`: nor do they decide which rows an open query selects, or in what order.
* **`Http.Server.hidden_stays_hidden`**: nor do they change any answer.
* `Http.Server.hidden_may_show`: a list may ask for them.
-/

namespace Registrar

/-- Whether the field at an index has no document key. -/
def Schema.Hidden (s : Schema) (i : Nat) : Prop := ∃ f, s.fields[i]? = some f ∧ f.jsonKey = none

/-- Two records of a schema differ in hidden fields only. -/
structure Record.SameShown (s : Schema) (a b : Record) : Prop where
  schema : a.schema = s
  eqOff : a.EqOff s.Hidden b

/-- Two stores differ only in the hidden fields of a resource, which has its collection alone. -/
structure Store.SameShown (s : Schema) (st st' : Store) : Prop where
  rows : List.Forall₂ (Record.SameShown s) (st.table s.collection).rows
    (st'.table s.collection).rows
  others : ∀ c, c ≠ s.collection → st'.table c = st.table c

/-- A query neither filters nor orders by a hidden field. -/
structure Query.Open (s : Schema) (q : Query) : Prop where
  conditions : ∀ c ∈ q.conditions, ∀ i, s.index? c.field = some i → ¬ s.Hidden i
  order : ∀ o, q.order = some o → ∀ i, s.index? o.field = some i → ¬ s.Hidden i

/-! ## Documents -/

namespace Record

/-- What is read off the cells of a record is the same where it shows nothing of hidden fields. -/
theorem filterMap_cells_eq {α : Type} {s : Schema} {vs ws : List Value}
    (hv : vs.length = s.fields.length) (hw : ws.length = s.fields.length)
    (same : ∀ i, ¬ s.Hidden i → ws[i]? = vs[i]?)
    {show? : Fin s.fields.length × Field × Value → Option α}
    (hide : ∀ i f v, f.jsonKey = none → show? (i, f, v) = none) :
    (cells ⟨s, vs, hv⟩).filterMap show? = (cells ⟨s, ws, hw⟩).filterMap show? := by
  unfold cells
  rw [List.filterMap_map, List.filterMap_map]
  refine List.filterMap_congr fun e he => ?_
  obtain ⟨i, -, rfl⟩ := List.mem_map.mp he
  show show? (i, s.fields.get i, value ⟨s, vs, hv⟩ i)
    = show? (i, s.fields.get i, value ⟨s, ws, hw⟩ i)
  cases hk : (s.fields.get i).jsonKey with
  | none => rw [hide _ _ _ hk, hide _ _ _ hk]
  | some key =>
    have shown : ¬ s.Hidden i := by
      rintro ⟨f, hf, hidden⟩
      obtain rfl := Option.some.inj ((s.getElem?_fields i).symm.trans hf)
      rw [hk] at hidden
      contradiction
    have values := same i shown
    rw [getElem?_values ⟨s, vs, hv⟩ i, getElem?_values ⟨s, ws, hw⟩ i] at values
    rw [Option.some.inj values]

namespace SameShown

variable {s : Schema} {a b : Record}

/-- A document does not tell hidden values. -/
theorem toJson_eq (h : SameShown s a b) : a.toJson = b.toJson := by
  obtain ⟨schema, vs, hv⟩ := a
  obtain ⟨schema', ws, hw⟩ := b
  obtain ⟨rfl, ⟨rfl, same⟩⟩ := h
  refine congrArg Json.ofPairs (filterMap_cells_eq hv hw same fun i f v hidden => ?_)
  simp only [hidden]
  rfl

theorem project_eq (h : SameShown s a b) (keys : List String) :
    a.project keys = b.project keys := by
  obtain ⟨schema, vs, hv⟩ := a
  obtain ⟨schema', ws, hw⟩ := b
  obtain ⟨rfl, ⟨rfl, same⟩⟩ := h
  refine congrArg Json.ofPairs (filterMap_cells_eq hv hw same fun i f v hidden => ?_)
  simp only [hidden]
  rfl

theorem key_eq (h : SameShown s a b) (hk : ¬ s.Hidden s.primaryKey) : b.key = a.key := by
  obtain ⟨rfl, off⟩ := h
  exact off.key hk

end SameShown

end Record

/-! ## Rows -/

section Rows

variable {s : Schema} {rows rows' : List Record}

/-- A row is found by its key, which shows. -/
theorem find?_shown (hk : ¬ s.Hidden s.primaryKey) (id : Value)
    (h : List.Forall₂ (Record.SameShown s) rows rows') :
    Option.Rel (Record.SameShown s) (rows.find? fun r => r.key.sameKey id)
      (rows'.find? fun r => r.key.sameKey id) := by
  -- the two searches stop at the same place, since the keys are the same
  induction h with
  | nil => exact .none
  | @cons a b rest rest' hab _ ih =>
    rw [List.find?_cons, List.find?_cons, hab.key_eq hk]
    split
    · exact .some hab
    · exact ih

/-- A filter on a field that shows passes the same rows. -/
theorem Filter.allAccepted_shown {a b : Record} (hab : Record.SameShown s a b) :
    ∀ {filters : List Filter}, (∀ f ∈ filters, ¬ s.Hidden f.index) →
      allAccepted filters b = allAccepted filters a
  | [], _ => rfl
  | f :: rest, h => by
    obtain ⟨hf, hrest⟩ := List.forall_mem_cons.mp h
    unfold allAccepted accepted
    rw [hab.eqOff.values _ hf, allAccepted_shown hab hrest]

theorem Filter.keep_shown {filters : List Filter} (hf : ∀ f ∈ filters, ¬ s.Hidden f.index)
    (h : List.Forall₂ (Record.SameShown s) rows rows') :
    Concur (List.Forall₂ (Record.SameShown s)) (keep filters rows) (keep filters rows') := by
  induction h with
  | nil => exact .nil
  | cons hab _ ih =>
    unfold keep
    rw [allAccepted_shown hab hf]
    refine (Concur.refl _).bind fun passes _ _ _ same => ih.bind fun kept kept' _ _ hkept => ?_
    subst same
    cases passes with
    | true => exact .cons hab hkept
    | false => exact hkept

/-- A field that shows orders rows the same way. -/
theorem Table.arrange_shown {i : Nat} (hi : ¬ s.Hidden i) (d : Direction)
    (h : List.Forall₂ (Record.SameShown s) rows rows') :
    Concur (List.Forall₂ (Record.SameShown s)) (arrange i d rows) (arrange i d rows') := by
  unfold arrange
  rw [h.length_eq]
  split
  · exact h
  · -- rows are sorted with their values at the index, which do not differ
    refine Concur.bind
      (R := List.Forall₂ fun e e' : Value × Record => e.1 = e'.1 ∧ Record.SameShown s e.2 e'.2)
      (Concur.mapM (h.imp fun a b hab => ?_)) fun entries entries' _ _ hentries => ?_
    · rw [hab.eqOff.values i hi]
      cases a.values[i]? with
      | none => rfl
      | some v => exact ⟨rfl, hab⟩
    have sorted : List.Forall₂ _ (Sorting.sort (fun a b => before d a.1 b.1) entries)
        (Sorting.sort (fun a b => before d a.1 b.1) entries') :=
      Sorting.forall₂_sort (fun a a' b b' hab hab' => by rw [hab.1, hab'.1]) hentries
    refine List.forall₂_map_left_iff.mpr (List.forall₂_map_right_iff.mpr ?_)
    exact sorted.imp fun _ _ h => h.2

/-- **An open query selects the same rows**, in the same order. -/
theorem Table.select_shown {t t' : Table} {q : Query} (hq : q.Open s)
    (h : List.Forall₂ (Record.SameShown s) t.rows t'.rows) :
    Concur (List.Forall₂ (Record.SameShown s)) (t.select s q) (t'.select s q) := by
  rw [select_eq_bind, select_eq_bind]
  refine (Concur.refl _).bind fun filters _ hfilters _ same => ?_
  subst same
  refine (Concur.refl _).bind fun order _ horder _ same => ?_
  subst same
  have conditions : ∀ f ∈ filters, ¬ s.Hidden f.index := by
    intro f hf
    obtain ⟨c, hc, hcf⟩ := exists_of_forall₂ (mapM_eq_ok.mp hfilters) hf
    obtain ⟨i, hi, index⟩ := Filter.index?_of_ofCondition hcf
    rw [index]
    exact hq.conditions c hc i hi
  refine (Filter.keep_shown conditions h).bind fun kept kept' _ _ hkept => ?_
  have window : ∀ {answer answer' : List Record},
      List.Forall₂ (Record.SameShown s) answer answer' →
        List.Forall₂ (Record.SameShown s) ((answer.drop q.offset).take q.limit)
          ((answer'.drop q.offset).take q.limit) :=
    fun h => List.forall₂_take _ (List.forall₂_drop _ h)
  cases order with
  | none => exact window hkept
  | some o =>
    obtain ⟨i, d⟩ := o
    obtain ⟨o, j, ho, hj, rfl⟩ := Table.index?_of_ordering horder
    exact (arrange_shown (hq.order o ho j hj) d hkept).bind fun _ _ _ _ sorted => window sorted

end Rows

/-! ## Answers -/

namespace Service

variable {sv : Service} {s : Schema} {st st' : Store} {resource : String}

/-- The rows of a resource do not differ, unless it is the one in question. -/
theorem eq_or_table_eq (alone : ∀ s' ∈ sv.registry.schemas, s'.collection = s.collection → s' = s)
    (same : st.SameShown s st') {op : Operation} {s' : Schema}
    (hs' : sv.schema resource op = .ok s') :
    s' = s ∨ st'.table s'.collection = st.table s'.collection := by
  by_cases h : s'.collection = s.collection
  · exact .inl (alone s' (schema_eq_ok hs').1 h)
  · exact .inr (same.others _ h)

theorem list_shown (alone : ∀ s' ∈ sv.registry.schemas, s'.collection = s.collection → s' = s)
    (same : st.SameShown s st') {params : List (String × String)}
    (hq : ∀ q, sv.schema resource .list = .ok s → Query.compile s params = .ok q → q.Open s) :
    (sv.list resource params st').1 = (sv.list resource params st).1 := by
  cases hs : sv.schema resource .list with
  | error failure =>
    unfold list
    rw [Action.liftExcept_bind_apply, Action.liftExcept_bind_apply, hs]
  | ok s' =>
    rw [sv.list_apply hs, sv.list_apply hs]
    cases hc : Query.compile s' params with
    | error fault => rfl
    | ok q =>
      dsimp only
      rcases eq_or_table_eq alone same hs with rfl | table
      · rcases (Table.select_shown (hq q hs hc) same.rows).cases with
          ⟨rows, rows', hrows, hrows', h⟩ | ⟨failure, hrows, hrows'⟩
        · rw [hrows, hrows']
          refine congrArg Except.ok (map_eq_of_forall₂ (h.imp fun a b hab => ?_))
          cases q.fields with
          | none => exact hab.toJson_eq.symm
          | some keys => exact (hab.project_eq keys).symm
        · rw [hrows, hrows']
      · rw [table]

theorem read_shown (alone : ∀ s' ∈ sv.registry.schemas, s'.collection = s.collection → s' = s)
    (hk : ¬ s.Hidden s.primaryKey) (same : st.SameShown s st') (id : Value) :
    (sv.read resource id st').1.map Record.toJson
      = (sv.read resource id st).1.map Record.toJson := by
  unfold read
  rw [Action.liftExcept_bind_apply, Action.liftExcept_bind_apply]
  cases hs : sv.schema resource .read with
  | error failure => rfl
  | ok s' =>
    dsimp only
    rw [fetch_apply, fetch_apply]
    rcases eq_or_table_eq alone same hs with rfl | table
    · have found : Option.Rel _ ((st.table s'.collection).find? id)
          ((st'.table s'.collection).find? id) := find?_shown hk id same.rows
      generalize (st.table s'.collection).find? id = a at found ⊢
      generalize (st'.table s'.collection).find? id = b at found ⊢
      cases found with
      | none => rfl
      | some hab => exact congrArg Except.ok hab.toJson_eq.symm
    · rw [table]
      cases (st.table s'.collection).find? id <;> rfl

end Service

namespace Http.Server

variable {sv : Service} {s : Schema} {st st' : Store}

/-- What a list answers is made of its rows. -/
theorem list_run (sv : Service) (c : Call) (st : Store) :
    ((list sv).run c st).1 = (sv.list c.resource c.params st).1.map successMany := by
  show ((successMany <$> sv.list c.resource c.params : Action Response) st).1 = _
  rw [Action.map_apply]

/-- What a read answers is made of the document of its row. -/
theorem read_run (sv : Service) (c : Call) (st : Store) :
    ((read sv).run c st).1 =
      (sv.schema c.resource .read).bind fun s => (parseId s c.id).bind fun id =>
        ((sv.read c.resource id st).1.map Record.toJson).map (success 200) := by
  unfold read
  dsimp only
  rw [Action.liftExcept_bind_apply]
  cases sv.schema c.resource .read with
  | error failure => rfl
  | ok s =>
    dsimp only
    rw [Action.liftExcept_bind_apply]
    cases hid : parseId s c.id with
    | error failure => simp only [Except.bind, hid]
    | ok id =>
      show (((fun r => success 200 r.toJson) <$> sv.read c.resource id : Action Response) st).1 = _
      rw [Action.map_apply]
      simp only [Except.bind, hid]
      cases (sv.read c.resource id st).1 <;> rfl

/-- **Hidden values stay hidden**: they change no answer to a read, and none to a list but where
its parameters filter or order by a hidden field. -/
theorem hidden_stays_hidden
    (alone : ∀ s' ∈ sv.registry.schemas, s'.collection = s.collection → s' = s)
    (hk : s.keyField.jsonKey.isSome) (same : st.SameShown s st') (c : Call) :
    ((read sv).run c st).1 = ((read sv).run c st').1 ∧
    ((∀ q, sv.schema c.resource .list = .ok s → Query.compile s c.params = .ok q → q.Open s) →
      ((list sv).run c st).1 = ((list sv).run c st').1) := by
  have keyShown : ¬ s.Hidden s.primaryKey := by
    rintro ⟨f, hf, hidden⟩
    obtain rfl := Option.some.inj ((s.getElem?_fields s.primaryKey).symm.trans hf)
    unfold Schema.keyField at hk
    rw [hidden] at hk
    contradiction
  constructor
  · rw [read_run, read_run]
    refine congrArg _ (funext fun s' => congrArg _ (funext fun id => ?_))
    rw [Service.read_shown alone keyShown same]
  · intro hq
    rw [list_run, list_run, Service.list_shown alone same hq]

/-! ## Notes with owners -/

/-- A note with an owner, which is hidden. -/
def owned (n : Int64) (owner : String) : Record :=
  ⟨note, [.int n, .string "a", .string owner, .int 10, .int 10, .bool false], rfl⟩

/-- The store with two notes of two owners. -/
def twoOwned (first second : String) : Store :=
  ⟨[("note", ⟨[owned 1 first, owned 2 second], 2⟩)]⟩

theorem sameShown_owned (n : Int64) (a b : String) : (owned n a).SameShown note (owned n b) := by
  refine ⟨rfl, rfl, fun i hi => ?_⟩
  match i with
  | 0 | 1 | 3 | 4 | 5 => rfl
  | 2 => exact absurd ⟨_, rfl, rfl⟩ hi
  | _ + 6 => rfl

theorem sameShown_twoOwned (a b c d : String) :
    (twoOwned a b).SameShown note (twoOwned c d) := by
  refine ⟨.cons (sameShown_owned 1 a c) (.cons (sameShown_owned 2 b d) .nil), fun other h => ?_⟩
  have absent : ∀ t : Table, Entries.get? [("note", t)] other = none := fun t => if_neg h.symm
  unfold Store.table twoOwned
  rw [absent, absent]

/-- The numbers of the notes that an answer lists. -/
def numbers : Except Failure Response → List Nat
  | .ok ⟨_, .document answer⟩ =>
    match answer.get? "data" with
    | some (.array rows) => rows.filterMap fun row =>
      match row.get? "id" with
      | some (.number (.nat n)) => some n.toNat
      | _ => none
    | _ => []
  | _ => []

/-- A call for the last note, which is no demand on owners. -/
def lastCall : Call :=
  ⟨"note", "1", [("gte-id", "1"), ("q-order", "desc-id"), ("q-limit", "1")], []⟩

theorem alone_note :
    ∀ s' ∈ noteService.registry.schemas, s'.collection = note.collection → s' = note :=
  fun _ hs' _ => List.mem_singleton.mp hs'

theorem id_shown : ∀ i, note.index? "id" = some i → ¬ note.Hidden i := by
  rintro i hi ⟨f, hf, hidden⟩
  obtain rfl : note.primaryKey = i := Option.some.inj hi
  obtain rfl := Option.some.inj hf
  contradiction

theorem hidden_stays_hidden_twoOwned :
    (∀ s' ∈ noteService.registry.schemas, s'.collection = note.collection → s' = note) ∧
    note.keyField.jsonKey.isSome ∧ (twoOwned "x" "y").SameShown note (twoOwned "y" "x") ∧
    (∀ q, noteService.schema lastCall.resource .list = .ok note →
      Query.compile note lastCall.params = .ok q → q.Open note) ∧
    ((read noteService).run lastCall (twoOwned "x" "y")).1
      = ((read noteService).run lastCall (twoOwned "y" "x")).1 ∧
    ((list noteService).run lastCall (twoOwned "x" "y")).1
      = ((list noteService).run lastCall (twoOwned "y" "x")).1 := by
  have isOpen : ∀ q, noteService.schema lastCall.resource .list = .ok note →
      Query.compile note lastCall.params = .ok q → q.Open note := by
    intro q _ hq
    obtain rfl := Except.ok.inj (Store.compile_lastNote.symm.trans hq)
    refine ⟨fun c hc => ?_, fun o ho => ?_⟩
    · obtain rfl := List.mem_singleton.mp hc
      exact id_shown
    · obtain rfl := Option.some.inj ho
      exact id_shown
  have same := sameShown_twoOwned "x" "y" "y" "x"
  obtain ⟨reads, lists⟩ := hidden_stays_hidden alone_note rfl same lastCall
  exact ⟨alone_note, rfl, same, isOpen, reads, lists isOpen⟩

/-- A call for the notes of an owner. -/
def byOwner (owner : String) : Call := ⟨"note", "", [("owner", owner)], []⟩

/-- A call for the notes in the order of their owners. -/
def inOwnerOrder : Call := ⟨"note", "", [("q-order", "asc-owner")], []⟩

/-- Parameters may name a field by its name, hidden or not: a list by owner, and one in the order
of the owners, tell stores apart that differ in hidden owners only. -/
theorem hidden_may_show :
    (∀ s' ∈ noteService.registry.schemas, s'.collection = note.collection → s' = note) ∧
    note.keyField.jsonKey.isSome ∧ (twoOwned "x" "y").SameShown note (twoOwned "y" "x") ∧
    ((list noteService).run (byOwner "x") (twoOwned "x" "y")).1
      ≠ ((list noteService).run (byOwner "x") (twoOwned "y" "x")).1 ∧
    ((list noteService).run inOwnerOrder (twoOwned "x" "y")).1
      ≠ ((list noteService).run inOwnerOrder (twoOwned "y" "x")).1 := by
  refine ⟨alone_note, rfl, sameShown_twoOwned "x" "y" "y" "x", fun h => ?_, fun h => ?_⟩
  · exact absurd (congrArg numbers h) (by decide)
  · exact absurd (congrArg numbers h) (by decide)

end Http.Server

end Registrar
