import Registrar.Proofs.Changes
import Registrar.Proofs.Updates

/-!
# Two requests for one row

A request to change a row finds it, and writes it later. Two of them may take these steps in six
orders. `Race` is a store with two requests and how far each has come, `Race.turn` one step of one
of them. Where one request is answered before the other one finds the row, the two come one after
the other. Where they overlap, both work on the row as it was at first, and the later write is made
of it as if the earlier one had not been: what the earlier one changed is lost, unless the later one
writes it too.

* `Edit.serve_eq`: a request that is left alone is its two steps.
* `Race.in_order_iff`: when the row that is left is one that the requests leave one after the other.
* `Race.race_loses_writes`: a deletion and an update that overlap leave no such row.
-/

namespace Registrar

/-! ## Requests in two steps -/

/-- A request to change the row with a key, and the time its hook is given. -/
structure Edit where
  resource : String
  id : Value
  change : Change
  now : Int64

namespace Edit

/-- The first step: find the row. -/
def find (e : Edit) (sv : Service) : Action Pending := do
  let s ← liftExcept (sv.schema e.resource e.change.operation)
  let current ← Service.fetch s e.id
  return ⟨s, e.change, current⟩

/-- The request, left alone. -/
def serve (e : Edit) (sv : Service) : Action Record :=
  match e.change with
  | .revision body => sv.update e.now e.resource e.id body
  | .deletion => sv.delete e.now e.resource e.id

/-- How far a request has come. -/
inductive Stage where
  | waiting
  | holding (p : Pending)
  | answered (answer : Except Failure Record)

/-- The next step of a request. -/
def advance (e : Edit) (sv : Service) : Stage → Store → Stage × Store
  | .waiting, st =>
    match e.find sv st with
    | (.ok p, st') => (.holding p, st')
    | (.error failure, st') => (.answered (.error failure), st')
  | .holding p, st => (.answered (p.write sv e.now st).1, (p.write sv e.now st).2)
  | .answered answer, st => (.answered answer, st)

theorem advance_waiting {e : Edit} {sv : Service} {st st' : Store} {p : Pending}
    (h : e.find sv st = (.ok p, st')) : e.advance sv .waiting st = (.holding p, st') := by
  unfold advance
  simp only [h]

theorem advance_waiting_error {e : Edit} {sv : Service} {st st' : Store} {failure : Failure}
    (h : e.find sv st = (.error failure, st')) :
    e.advance sv .waiting st = (.answered (.error failure), st') := by
  unfold advance
  simp only [h]

/-- **A request that is left alone** finds its row and writes it. -/
theorem serve_eq (e : Edit) (sv : Service) (st : Store) :
    e.serve sv st = (e.find sv >>= fun p => p.write sv e.now) st := by
  obtain ⟨resource, id, change, now⟩ := e
  rw [Action.bind_apply]
  unfold find
  rw [Action.liftExcept_bind_apply]
  cases change with
  | revision body =>
    show sv.update now resource id body st = _
    unfold Service.update
    rw [Action.liftExcept_bind_apply]
    dsimp only [Change.operation]
    cases sv.schema resource .update with
    | error failure => rfl
    | ok s =>
      dsimp only
      rw [Action.bind_apply, Action.bind_apply, Service.fetch_apply]
      cases (st.table s.collection).find? id <;> rfl
  | deletion =>
    show sv.delete now resource id st = _
    unfold Service.delete
    rw [Action.liftExcept_bind_apply]
    dsimp only [Change.operation]
    cases sv.schema resource .delete with
    | error failure => rfl
    | ok s =>
      dsimp only
      rw [Action.bind_apply, Action.bind_apply, Service.fetch_apply]
      cases (st.table s.collection).find? id <;> rfl

variable {sv : Service} {e : Edit} {s : Schema} {st : Store} {row : Record}

theorem find_of_find? (hs : sv.schema e.resource e.change.operation = .ok s)
    (hfind : (st.table s.collection).find? e.id = some row) :
    e.find sv st = (.ok ⟨s, e.change, row⟩, st) := by
  unfold find
  rw [Action.liftExcept_bind_apply, hs]
  dsimp only
  rw [Action.bind_apply, Service.fetch_apply, hfind]
  rfl

theorem serve_of_find? (hs : sv.schema e.resource e.change.operation = .ok s)
    (hfind : (st.table s.collection).find? e.id = some row) :
    e.serve sv st = (Pending.mk s e.change row).write sv e.now st := by
  rw [serve_eq, Action.bind_apply, find_of_find? hs hfind]

end Edit

/-! ## Writes in a place -/

/-- A row of a resource is found at an index by a value, and by its own key. -/
structure Spot (st : Store) (s : Schema) (i : Nat) (id : Value) (row : Record) : Prop where
  isRow : row.RowOf s
  found : Table.FirstWith (st.table s.collection).rows id i row
  own : Table.FirstWith (st.table s.collection).rows row.key i row

/-- A row was written at an index, and nothing else. -/
def Wrote (s : Schema) (i : Nat) (row : Record) (st st' : Store) : Prop :=
  ∀ c, (st'.table c).rows =
    if s.collection = c then (st.table c).rows.set i row else (st.table c).rows

namespace Wrote

variable {s : Schema} {i : Nat} {row row' : Record} {st st' st'' : Store} {id : Value}

/-- A row that was written is found where the one before it was. -/
theorem spot (h : Wrote s i row' st st') (spot : Spot st s i id row) (hrow : row'.RowOf s)
    (key : row'.key = row.key) : Spot st' s i id row' := by
  have rows := h s.collection
  rw [if_pos rfl] at rows
  refine ⟨hrow, ?_, ?_⟩
  · rw [rows]
    exact spot.found.set key
  · rw [rows, key]
    exact spot.own.set key

/-- Of two rows that are written in one place, the later one is left. -/
theorem trans (h : Wrote s i row st st') (h' : Wrote s i row' st' st'') :
    Wrote s i row' st st'' := by
  intro c
  rw [h', h]
  split
  · rw [List.set_set]
  · rfl

end Wrote

section Places

variable {sv : Service} {now : Int64} {s : Schema} {change : Change} {st st' : Store} {i : Nat}
  {id : Value} {row base written : Record}

/-- What is made of a copy with the key of a row is written over the row. -/
theorem exists_write (ed : sv.Edits s) (spot : Spot st s i id row) (hbase : base.RowOf s)
    (key : base.key = row.key) (h : Makes sv now s change base written) :
    ∃ st', (Pending.mk s change base).write sv now st = (.ok written, st') ∧
      Wrote s i written st st' := by
  have keeps := h.key ed hbase
  have schema := (h.rowOf ed hbase).schema
  obtain ⟨r, hwork, rfl⟩ := h
  have persisted : r.schema.keyField.isPersisted = true := by
    rw [show r.schema = s from schema]
    exact ed.sound.keyPersisted
  rw [Record.key_stored persisted, key] at keeps
  have hfind : (st.table r.schema.collection).find? r.key = some row := by
    rw [show r.schema = s from schema, keeps]
    exact Table.find?_eq_some.mpr ⟨i, spot.own⟩
  obtain ⟨st', update⟩ := Service.exists_update hfind
  refine ⟨st', ?_, fun c => ?_⟩
  · unfold Pending.write
    rw [Action.liftExcept_bind_apply, hwork]
    exact update
  · obtain ⟨t, hupdate, tables⟩ := Store.update_eq_ok update
    obtain ⟨-, j, old, first, rows⟩ := Table.update_spec hupdate
    rw [show r.schema = s from schema] at first tables rows
    rw [keeps] at first
    obtain ⟨same, -⟩ := first.unique spot.own
    rw [tables, ← same]
    split
    · rename_i here
      rw [rows, here]
    · rfl

/-- **A write that succeeds** makes a row of its copy, and writes it over the row with the key. -/
theorem write_makes (ed : sv.Edits s) (spot : Spot st s i id row) (hbase : base.RowOf s)
    (key : base.key = row.key)
    (h : (Pending.mk s change base).write sv now st = (.ok written, st')) :
    Makes sv now s change base written ∧ Wrote s i written st st' := by
  rcases Pending.write_cases h with ⟨⟨failure, failed⟩, -⟩ | ⟨r, stored, hwork, answer, update⟩
  · exact absurd failed (by simp)
  · obtain rfl := Except.ok.inj answer
    have stores : written = r.stored := by
      obtain ⟨t, hupdate, -⟩ := Store.update_eq_ok update
      exact (Table.update_spec hupdate).1
    have made : Makes sv now s change base written := ⟨r, hwork, stores⟩
    obtain ⟨st'', h', wrote⟩ := exists_write ed spot hbase key made
    obtain rfl := (Prod.mk.inj (h.symm.trans h')).2
    exact ⟨made, wrote⟩

variable {e : Edit}

/-- A request for the row at an index that is left alone is answered with what it makes of it. -/
theorem exists_serve (ed : sv.Edits s) (hs : sv.schema e.resource e.change.operation = .ok s)
    (spot : Spot st s i e.id row) (h : Makes sv e.now s e.change row written) :
    ∃ st', e.serve sv st = (.ok written, st') ∧ Wrote s i written st st' := by
  rw [Edit.serve_of_find? hs (Table.find?_eq_some.mpr ⟨i, spot.found⟩)]
  exact exists_write ed spot spot.isRow rfl h

/-- **A request that is left alone and succeeds** is answered with what it makes of the row. -/
theorem serve_makes (ed : sv.Edits s) (hs : sv.schema e.resource e.change.operation = .ok s)
    (spot : Spot st s i e.id row) (h : e.serve sv st = (.ok written, st')) :
    Makes sv e.now s e.change row written ∧ Wrote s i written st st' := by
  rw [Edit.serve_of_find? hs (Table.find?_eq_some.mpr ⟨i, spot.found⟩)] at h
  exact write_makes ed spot spot.isRow rfl h

end Places

/-- In every reachable state a row of a resource that is alone on its collection is found by its
key, if no change reaches the key. -/
theorem spot_of_run {sv : Service} {s : Schema} {t : Traffic} {i : Nat} {id : Value} {row : Record}
    (hreg : sv.registry.Sound) (hstd : sv.Standard) (ht : Traffic.Reachable sv t)
    (alone : ∀ s' ∈ sv.registry.schemas, s'.collection = s.collection → s' = s)
    (ed : sv.Edits s) (found : Table.FirstWith (t.store.table s.collection).rows id i row) :
    Spot t.store s i id row := by
  have rows := (Traffic.sane_of_run hreg hstd ht).rows
  obtain ⟨hschema, collection, typed, settled⟩ := rows _ row (List.mem_of_getElem? found.row)
  have schema := alone _ hschema collection
  have reaches : sv.Reaches s id := by
    refine ⟨?_, .inr fun s' hs' same => by rw [alone s' hs' same]⟩
    rintro (merge | touched)
    · exact ed.key merge
    · exact ed.time touched.2
  exact ⟨⟨schema, typed, settled⟩, found, reaches.first ed.sound rows schema typed found⟩

/-! ## Races -/

/-- A store, and how far two requests have come. -/
structure Race where
  store : Store
  stage : Bool → Edit.Stage

namespace Race

variable {sv : Service} {es : Bool → Edit} {s : Schema} {st : Store} {i : Nat} {row : Record}

/-- One step of one of the two. -/
def turn (sv : Service) (es : Bool → Edit) (race : Race) (b : Bool) : Race :=
  ⟨((es b).advance sv (race.stage b) race.store).2,
    Function.update race.stage b ((es b).advance sv (race.stage b) race.store).1⟩

/-- What two requests make of a store, if they take their steps in an order. -/
def run (sv : Service) (es : Bool → Edit) (st : Store) (turns : List Bool) : Race :=
  turns.foldl (turn sv es) ⟨st, fun _ => .waiting⟩

/-- Two requests for the row at an index: the resource exposes both, and each finds the row. -/
structure On (sv : Service) (st : Store) (s : Schema) (i : Nat) (row : Record)
    (es : Bool → Edit) : Prop where
  schema : ∀ b, sv.schema (es b).resource (es b).change.operation = .ok s
  found : ∀ b, Table.FirstWith (st.table s.collection).rows (es b).id i row

/-- The store after two requests were served one after the other. -/
def serial (sv : Service) (es : Bool → Edit) (st : Store) (first : Bool) : Store :=
  ((es !first).serve sv ((es first).serve sv st).2).2

/-- A row is one that the two requests leave one after the other, times aside. -/
def InOrder (sv : Service) (es : Bool → Edit) (st : Store) (s : Schema) (i : Nat)
    (row : Record) : Prop :=
  ∃ (first : Bool) (z : Record), ((serial sv es st first).table s.collection).rows[i]? = some z ∧
    Record.EqOff s.IsTime z row

/-! ### Turns -/

section Turns

variable {race : Race} {b : Bool} {p : Pending}

theorem turn_eq {stage : Edit.Stage} {st' : Store}
    (h : (es b).advance sv (race.stage b) race.store = (stage, st')) :
    turn sv es race b = ⟨st', Function.update race.stage b stage⟩ := by
  unfold turn
  rw [h]

theorem turn_find (waiting : race.stage b = .waiting)
    (h : (es b).find sv race.store = (.ok p, race.store)) :
    turn sv es race b = ⟨race.store, Function.update race.stage b (.holding p)⟩ := by
  refine turn_eq ?_
  rw [waiting]
  exact Edit.advance_waiting h

theorem turn_write (holding : race.stage b = .holding p) :
    turn sv es race b = ⟨(p.write sv (es b).now race.store).2,
      Function.update race.stage b (.answered (p.write sv (es b).now race.store).1)⟩ := by
  refine turn_eq ?_
  rw [holding]
  rfl

/-- A request that takes both its steps at once is served as if it were alone. -/
theorem turn_turn (waiting : race.stage b = .waiting) :
    turn sv es (turn sv es race b) b = ⟨((es b).serve sv race.store).2,
      Function.update race.stage b (.answered ((es b).serve sv race.store).1)⟩ := by
  rw [Edit.serve_eq, Action.bind_apply]
  rcases found : (es b).find sv race.store with ⟨failure | p, st'⟩
  · have failed : turn sv es race b =
        ⟨st', Function.update race.stage b (.answered (.error failure))⟩ :=
      turn_eq (by rw [waiting]; exact Edit.advance_waiting_error found)
    have idle : turn sv es ⟨st', Function.update race.stage b (.answered (.error failure))⟩ b =
        ⟨st', Function.update (Function.update race.stage b (.answered (.error failure))) b
          (.answered (.error failure))⟩ :=
      turn_eq (by simp only [Function.update_self]; rfl)
    rw [failed, idle, Function.update_idem]
  · have held : turn sv es race b = ⟨st', Function.update race.stage b (.holding p)⟩ :=
      turn_eq (by rw [waiting]; exact Edit.advance_waiting found)
    rw [held, turn_write (Function.update_self ..), Function.update_idem]

end Turns

/-- Requests that do not overlap are served one after the other. -/
theorem run_apart (sv : Service) (es : Bool → Edit) (st : Store) (a : Bool) :
    (run sv es st [a, a, !a, !a]).store = serial sv es st a ∧
    (run sv es st [a, a, !a, !a]).stage a = .answered ((es a).serve sv st).1 ∧
    (run sv es st [a, a, !a, !a]).stage (!a) =
      .answered ((es !a).serve sv ((es a).serve sv st).2).1 := by
  have first : turn sv es (turn sv es ⟨st, fun _ => .waiting⟩ a) a = ⟨((es a).serve sv st).2,
      Function.update (fun _ => .waiting) a (.answered ((es a).serve sv st).1)⟩ := turn_turn rfl
  have both : run sv es st [a, a, !a, !a] = turn sv es (turn sv es (turn sv es (turn sv es
      ⟨st, fun _ => .waiting⟩ a) a) (!a)) (!a) := rfl
  rw [both, first, turn_turn (by simp)]
  exact ⟨rfl, by simp, by simp⟩

/-- The row as it was at first, held by a request. -/
def copy (s : Schema) (row : Record) (e : Edit) : Pending := ⟨s, e.change, row⟩

/-- Requests that overlap both write what they make of the row as it was at first. -/
theorem run_overlapping (on : On sv st s i row es) (a c : Bool) {st₁ : Store}
    (h : ((copy s row (es c)).write sv (es c).now st).2 = st₁) :
    (run sv es st [a, !a, c, !c]).store =
      ((copy s row (es !c)).write sv (es !c).now st₁).2 ∧
    (run sv es st [a, !a, c, !c]).stage c =
      .answered ((copy s row (es c)).write sv (es c).now st).1 ∧
    (run sv es st [a, !a, c, !c]).stage (!c) =
      .answered ((copy s row (es !c)).write sv (es !c).now st₁).1 := by
  have find : ∀ b, (es b).find sv st = (.ok (copy s row (es b)), st) := fun b =>
    Edit.find_of_find? (on.schema b) (Table.find?_eq_some.mpr ⟨i, on.found b⟩)
  have held : turn sv es (turn sv es ⟨st, fun _ => .waiting⟩ a) (!a) =
      ⟨st, fun b => .holding (copy s row (es b))⟩ := by
    have first : turn sv es ⟨st, fun _ => .waiting⟩ a =
        ⟨st, Function.update (fun _ => .waiting) a (.holding (copy s row (es a)))⟩ :=
      turn_find rfl (find a)
    rw [first, turn_find (by simp) (find !a)]
    congr 1
    funext b
    cases a <;> cases b <;> rfl
  have written : turn sv es ⟨st, fun b => .holding (copy s row (es b))⟩ c =
      ⟨st₁, Function.update (fun b => .holding (copy s row (es b))) c
        (.answered ((copy s row (es c)).write sv (es c).now st).1)⟩ := by
    rw [turn_write rfl, h]
  have all : run sv es st [a, !a, c, !c] = turn sv es (turn sv es (turn sv es (turn sv es
      ⟨st, fun _ => .waiting⟩ a) (!a)) c) (!c) := rfl
  rw [all, held, written, turn_write (p := copy s row (es !c)) (by simp)]
  exact ⟨rfl, by simp, by simp⟩

/-! ### One after the other -/

section Order

variable {c : Bool} {y₁ y z : Record}

/-- What is left of a row after two requests were served one after the other. -/
theorem serial_row (ed : sv.Edits s) (on : On sv st s i row es)
    (spots : ∀ b, Spot st s i (es b).id row)
    (h : Makes sv (es c).now s (es c).change row y₁)
    (h' : Makes sv (es !c).now s (es !c).change y₁ z) :
    ((serial sv es st c).table s.collection).rows[i]? = some z := by
  obtain ⟨st₁, served, wrote⟩ := exists_serve ed (on.schema c) (spots c) h
  have hrow := (spots c).isRow
  have spot := wrote.spot (spots !c) (h.rowOf ed hrow) (h.key ed hrow)
  obtain ⟨st₂, served', wrote'⟩ := exists_serve ed (on.schema !c) spot h'
  have both := wrote.trans wrote' s.collection
  have inside : i < (st.table s.collection).rows.length :=
    (List.getElem?_eq_some_iff.mp (spots c).found.row).1
  unfold serial
  rw [served, served', both, if_pos rfl, List.getElem?_set_self inside]

/-- **What two requests for one row leave** if the second one works on the row as it was at first: a
row that they leave one after the other iff the second one writes all that the first one changed. -/
theorem inOrder_iff (ed : sv.Edits s) (on : On sv st s i row es)
    (spots : ∀ b, Spot st s i (es b).id row)
    (h : Makes sv (es c).now s (es c).change row y₁)
    (h' : Makes sv (es !c).now s (es !c).change row y) :
    InOrder sv es st s i y ↔ ∀ j : Nat, ¬ s.IsTime j →
      y₁.values[j]? = row.values[j]? ∨ (es !c).change.Writes s j := by
  have hrow := (spots c).isRow
  obtain ⟨z, hz, zs, after⟩ := h'.after ed hrow h
  obtain ⟨z', hz', -, after'⟩ := h.after ed hrow h'
  have row₁ := serial_row ed on spots h hz
  have row₂ := serial_row ed on spots h' (by rw [Bool.not_not]; exact hz')
  have untouched : ∀ j, ¬ s.IsTime j → ¬ (sv.lifecycleOf s).Touches s j :=
    fun j untimed touched => untimed (.inr touched.2)
  have stays : ∀ j, ¬ s.IsTime j → ¬ (es !c).change.Writes s j → y.values[j]? = row.values[j]? :=
    fun j untimed other => (h'.eqOff ed hrow).values j fun reached =>
      reached.elim other (untouched j untimed)
  constructor
  · rintro ⟨first, q, hq, off⟩ j untimed
    by_cases written : (es !c).change.Writes s j
    · exact .inr written
    · left
      have left_as := off.values j untimed
      rw [stays j untimed written] at left_as
      by_cases order : first = c
      · -- the second request kept what the first one made
        rw [order, row₁] at hq
        obtain rfl := Option.some.inj hq
        rw [left_as, (after j (untouched j untimed)).2 written]
      · rw [show first = !c by cases first <;> cases c <;> simp_all, row₂] at hq
        obtain rfl := Option.some.inj hq
        by_cases written₁ : (es c).change.Writes s j
        · rw [left_as, (after' j (untouched j untimed)).1 written₁]
        · exact (h.eqOff ed hrow).values j fun reached =>
            reached.elim written₁ (untouched j untimed)
  · intro covered
    have hy := (h'.rowOf ed hrow).schema
    refine ⟨c, z, row₁, hy.trans zs.symm, fun j untimed => ?_⟩
    by_cases written : (es !c).change.Writes s j
    · rw [(after j (untouched j untimed)).1 written]
    · have unchanged := (covered j untimed).resolve_right written
      rw [(after j (untouched j untimed)).2 written, unchanged, stays j untimed written]

end Order

/-- Two turns for each of two requests: one takes both of its own first, or each takes one. -/
theorem apart_or_overlapping {a b c e : Bool}
    (turns : [a, b, c, e].Perm [true, true, false, false]) :
    (a = b ∧ c = !a ∧ e = !a) ∨ (b = !a ∧ e = !c) := by
  revert turns
  cases a <;> cases b <;> cases c <;> cases e <;> decide

/-- Two changes of one operation write the same fields. -/
theorem writes_of_operation {change change' : Change} (h : change.operation = change'.operation)
    {j : Nat} (written : change.Writes s j) : change'.Writes s j := by
  cases change with
  | revision body =>
    cases change' with
    | revision body' => exact written
    | deletion => exact absurd h (fun same => by cases same)
  | deletion =>
    cases change' with
    | revision body' => exact absurd h (fun same => by cases same)
    | deletion => exact written

/-- **When no acknowledged write is lost.** Two requests for one row of a resource that is alone on
its collection, both of which succeed, leave a row that they leave one after the other, times aside,
iff one is answered before the other one finds the row, or the one that writes last writes all that
the other one changed. So do two updates, and two deletions. Where they overlap, what is left is
what the last one makes of the row as it was at first. -/
theorem in_order_iff {d : Descriptor} (hreg : d.resolve = .ok sv.registry) (hstd : sv.Standard)
    {t : Traffic} (ht : Traffic.Reachable sv t) (hs : s ∈ sv.registry.schemas)
    (alone : ∀ s' ∈ sv.registry.schemas, s'.collection = s.collection → s' = s)
    (hmerge : ¬ s.IsMergeable s.primaryKey) (htime : ¬ s.IsUpdated s.primaryKey)
    (on : On sv t.store s i row es) {a b c e : Bool}
    (turns : [a, b, c, e].Perm [true, true, false, false])
    (ok : ∀ b', ∃ y, (run sv es t.store [a, b, c, e]).stage b' = .answered (.ok y)) :
    ∃ y, (run sv es t.store [a, b, c, e]).stage e = .answered (.ok y) ∧
      Wrote s i y t.store (run sv es t.store [a, b, c, e]).store ∧
      (InOrder sv es t.store s i y ↔ a = b ∨
        ∀ y₁ : Record, (run sv es t.store [a, b, c, e]).stage c = .answered (.ok y₁) →
          ∀ j : Nat, ¬ s.IsTime j →
            y₁.values[j]? = row.values[j]? ∨ (es e).change.Writes s j) ∧
      (a ≠ b → ((es e).serve sv t.store).1 = .ok y) ∧
      ((es true).change.operation = (es false).change.operation →
        InOrder sv es t.store s i y) := by
  have reg := Registry.sound_of_resolve hreg
  have ed : sv.Edits s := ⟨reg.schemas s hs, hstd s hs, hmerge, htime⟩
  have spots : ∀ b, Spot t.store s i (es b).id row := fun b =>
    spot_of_run reg hstd ht alone ed (on.found b)
  rcases apart_or_overlapping turns with ⟨rfl, rfl, rfl⟩ | ⟨rfl, rfl⟩
  · -- one after the other
    obtain ⟨store, stage₁, stage⟩ := run_apart sv es t.store a
    obtain ⟨y₁, first⟩ := ok a
    obtain ⟨y, second⟩ := ok !a
    have answer₁ := Edit.Stage.answered.inj (stage₁.symm.trans first)
    have answer := Edit.Stage.answered.inj (stage.symm.trans second)
    obtain ⟨made₁, wrote₁⟩ := serve_makes ed (on.schema a) (spots a) (Prod.ext answer₁ rfl)
    have spot := wrote₁.spot (spots !a) (made₁.rowOf ed (spots a).isRow)
      (made₁.key ed (spots a).isRow)
    obtain ⟨made, wrote⟩ := serve_makes ed (on.schema !a) spot (Prod.ext answer rfl)
    have ordered : InOrder sv es t.store s i y :=
      ⟨a, y, serial_row ed on spots made₁ made, .refl _ y⟩
    refine ⟨y, second, ?_, ⟨fun _ => .inl rfl, fun _ => ordered⟩, fun apart => absurd rfl apart,
      fun _ => ordered⟩
    rw [store]
    exact wrote₁.trans wrote
  · -- the requests overlap
    obtain ⟨store, stage₁, stage⟩ := run_overlapping on a c rfl
    obtain ⟨y₁, first⟩ := ok c
    obtain ⟨y, second⟩ := ok !c
    have answer₁ := Edit.Stage.answered.inj (stage₁.symm.trans first)
    have answer := Edit.Stage.answered.inj (stage.symm.trans second)
    have hrow := (spots c).isRow
    obtain ⟨made₁, wrote₁⟩ := write_makes ed (spots c) hrow rfl (Prod.ext answer₁ rfl)
    have key₁ := made₁.key ed hrow
    have spot := wrote₁.spot (spots !c) (made₁.rowOf ed hrow) key₁
    obtain ⟨made, wrote⟩ := write_makes ed spot hrow key₁.symm (Prod.ext answer rfl)
    have ordered := inOrder_iff ed on spots made₁ made
    obtain ⟨st', alone, -⟩ := exists_serve ed (on.schema !c) (spots !c) made
    refine ⟨y, second, ?_, ?_, fun _ => by rw [alone], fun same => ordered.mpr ?_⟩
    · rw [store]
      exact wrote₁.trans wrote
    · rw [ordered]
      constructor
      · intro covered
        refine .inr fun y' hy' => ?_
        obtain rfl := Except.ok.inj (Edit.Stage.answered.inj (first.symm.trans hy'))
        exact covered
      · rintro (apart | covered)
        · exact absurd apart (by simp)
        · exact covered y₁ first
    · intro j untimed
      by_cases written : (es c).change.Writes s j
      · right
        refine writes_of_operation ?_ written
        cases c
        · exact same.symm
        · exact same
      · left
        exact (made₁.eqOff ed hrow).values j fun reached =>
          reached.elim written fun touched => untimed (.inr touched.2)

/-! ### A deletion and an update -/

/-- The first note is given another title at time 20. -/
def retitle : Edit := ⟨"note", .int 1, .revision (titled "b"), 20⟩

/-- The first note is deleted at time 30. -/
def removal : Edit := ⟨"note", .int 1, .deletion, 30⟩

/-- The two of them. -/
def retitleAndRemoval (b : Bool) : Edit := if b then retitle else removal

theorem on_firstNote (es : Bool → Edit) (resource : ∀ b, (es b).resource = "note")
    (id : ∀ b, (es b).id = .int 1) : On noteService (oneNote firstNote) note 0 firstNote es := by
  refine ⟨fun b => ?_, fun b => ?_⟩
  · rw [resource]
    cases (es b).change <;> rfl
  · rw [id]
    exact ⟨rfl, rfl, fun j q hj => absurd hj (Nat.not_lt_zero j)⟩

/-- Two requests that both succeed and of which one is lost: the row that is left is none that they
leave one after the other. -/
def Loses (sv : Service) (es : Bool → Edit) (st : Store) (s : Schema) (i : Nat)
    (turns : List Bool) : Prop :=
  (∀ b, ∃ y, (run sv es st turns).stage b = .answered (.ok y)) ∧
    ∃ y, ((run sv es st turns).store.table s.collection).rows[i]? = some y ∧
      ¬ InOrder sv es st s i y

/-- The first note with a title and a flag, changed at a time. -/
def noteAt (title : String) (changed : Int64) (gone : Bool) : Record :=
  ⟨note, [.int 1, .string title, .string "", .int 10, .int changed, .bool gone], rfl⟩

/-- **Acknowledged writes are lost**: a deletion is undone by an update that overlaps it and writes
after it, although the update does not touch the flag, and an update is undone by such a
deletion. -/
theorem race_loses_writes :
    notes.resolve = .ok noteService.registry ∧ noteService.Standard ∧
    Traffic.Reachable noteService ⟨oneNote firstNote, []⟩ ∧
    (∀ s' ∈ noteService.registry.schemas, s'.collection = note.collection → s' = note) ∧
    ¬ note.IsMergeable note.primaryKey ∧ ¬ note.IsTime note.primaryKey ∧
    note.IsSoftDelete 5 ∧ ¬ note.IsMergeable 5 ∧
    On noteService (oneNote firstNote) note 0 firstNote retitleAndRemoval ∧
    Loses noteService retitleAndRemoval (oneNote firstNote) note 0 [true, false, false, true] ∧
    Loses noteService retitleAndRemoval (oneNote firstNote) note 0 [true, false, true, false] := by
  have untimed : ∀ j ∈ [0, 1, 5], ¬ note.IsTime j := by
    unfold Schema.IsTime Schema.IsUpdated
    decide
  have stays : ¬ note.IsMergeable 5 := by
    rintro ⟨f, hf, merge⟩
    obtain rfl := Option.some.inj hf
    exact absurd merge (by decide)
  -- in either order the note has the new title and is flagged
  have both : ∀ (first : Bool) (z : Record),
      ((serial noteService retitleAndRemoval (oneNote firstNote) first).table "note").rows[0]? =
        some z → z.values[1]? = some (.string "b") ∧ z.values[5]? = some (.bool true) := by
    intro first z hz
    cases first with
    | false =>
      have left : some (noteAt "b" 20 true) = some z := hz
      obtain rfl := Option.some.inj left
      exact ⟨rfl, rfl⟩
    | true =>
      have left : some (noteAt "b" 30 true) = some z := hz
      obtain rfl := Option.some.inj left
      exact ⟨rfl, rfl⟩
  refine ⟨notes_resolve, standard_notes, reachable_oneNote,
    fun s' hs' _ => List.mem_singleton.mp hs', key_of_note_stays.1, untimed 0 (by decide), rfl,
    stays, on_firstNote _ (by decide) ?_, ⟨?_, noteAt "b" 20 false, rfl, ?_⟩,
    ⟨?_, noteAt "a" 30 true, rfl, ?_⟩⟩
  · intro b
    cases b <;> rfl
  · intro b
    cases b with
    | false => exact ⟨noteAt "a" 30 true, rfl⟩
    | true => exact ⟨noteAt "b" 20 false, rfl⟩
  · rintro ⟨first, z, hz, off⟩
    have flag := off.values 5 (untimed 5 (by decide))
    rw [(both first z hz).2] at flag
    cases flag
  · intro b
    cases b with
    | false => exact ⟨noteAt "a" 30 true, rfl⟩
    | true => exact ⟨noteAt "b" 20 false, rfl⟩
  · rintro ⟨first, z, hz, off⟩
    have title := off.values 1 (untimed 1 (by decide))
    rw [(both first z hz).1] at title
    simp [noteAt] at title

/-- The first note is given a title by each of two requests. -/
def twoTitles (b : Bool) : Edit :=
  if b then retitle else ⟨"note", .int 1, .revision (titled "c"), 30⟩

theorem in_order_iff_twoTitles :
    notes.resolve = .ok noteService.registry ∧ noteService.Standard ∧
    Traffic.Reachable noteService ⟨oneNote firstNote, []⟩ ∧
    On noteService (oneNote firstNote) note 0 firstNote twoTitles ∧
    (run noteService twoTitles (oneNote firstNote) [true, false, true, false]).stage false =
      .answered (.ok (noteAt "c" 30 false)) ∧
    InOrder noteService twoTitles (oneNote firstNote) note 0 (noteAt "c" 30 false) := by
  have on : On noteService (oneNote firstNote) note 0 firstNote twoTitles :=
    on_firstNote _ (by decide) fun b => by cases b <;> rfl
  have last :
      (run noteService twoTitles (oneNote firstNote) [true, false, true, false]).stage false =
        .answered (.ok (noteAt "c" 30 false)) := rfl
  obtain ⟨y, answered, -, -, -, ordered⟩ := in_order_iff notes_resolve standard_notes
    reachable_oneNote (List.mem_singleton_self note) (fun s' hs' _ => List.mem_singleton.mp hs')
    key_of_note_stays.1 key_of_note_stays.2 on (a := true) (b := false) (c := true) (e := false)
    (by decide) fun b => by
      cases b with
      | false => exact ⟨noteAt "c" 30 false, rfl⟩
      | true => exact ⟨noteAt "b" 20 false, rfl⟩
  obtain rfl := Except.ok.inj (Edit.Stage.answered.inj (last.symm.trans answered))
  exact ⟨notes_resolve, standard_notes, reachable_oneNote, on, last, ordered rfl⟩

end Race

end Registrar
