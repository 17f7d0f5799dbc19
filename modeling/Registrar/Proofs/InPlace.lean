import Registrar.Proofs.Serving

/-!
# Failures are atomic

A store's action is one step, and `Store.change` writes a table back only if the step succeeds. A
store that works in place has no such moment. It enters a table for the collection before anything
is known of the record, counts every number that it tries for a key, sets the key, and blanks one
field after the other by a setter that may refuse. `Store.InPlace` is that store, with every load
and every save of a table in its place.

* `Record.blankAll_eq`: blanking field by field is never refused, and gives what is stored.
* `Store.InPlace.draw_of_free`: the numbers that are tried are those that `Table.freeFrom?` tries.
* `Store.InPlace.insert_alike`, `update_alike`: the writes in place answer what the actions of the
  store answer, and leave the same tables.
* `Request.serveWith_alike`: so does a service over them.
* `Request.failures_are_atomic`: a request that fails leaves every table as it was, and so does one
  that only reads.

A store without a free key (`Crash.keysExhausted`) stops without an answer. In place it has counted
up to the last number by then; no row is touched, but the two are not compared any further.
-/

namespace Registrar

/-! ## Blanking field by field -/

namespace Record

/-- Blank the field with an index, if it is not persisted. -/
def blankAt (r : Record) (i : Nat) : Except RecordFault Record :=
  if h : i < r.schema.fields.length then
    if r.schema.fields[i].isPersisted then .ok r
    else r.setAt ⟨i, h⟩ (.zero r.schema.fields[i].kind)
  else .ok r

/-- Blank what is not persisted, one field after the other. -/
def blankAll (r : Record) : Except RecordFault Record :=
  (List.range r.schema.fields.length).foldlM blankAt r

variable {r r' : Record}

/-- A zero is never refused. -/
theorem blankAt_eq (r : Record) (i : Nat) : ∃ r', r.blankAt i = .ok r' ∧ r'.schema = r.schema ∧
    ∀ j : Nat, r'.values[j]? = if j = i then r.stored.values[j]? else r.values[j]? := by
  unfold blankAt
  by_cases h : i < r.schema.fields.length
  · have hf : r.schema.fields[i]? = some r.schema.fields[i] := List.getElem?_eq_getElem h
    have stored := r.getElem?_stored hf
    rw [dif_pos h]
    by_cases persisted : r.schema.fields[i].isPersisted = true
    · rw [if_pos persisted] at stored ⊢
      refine ⟨r, rfl, rfl, fun j => ?_⟩
      split
      · rename_i same
        rw [same, stored]
      · rfl
    · rw [if_neg persisted] at stored ⊢
      refine ⟨r.put ⟨i, h⟩ (.zero r.schema.fields[i].kind), ?_, rfl, fun j => ?_⟩
      · exact setAt_eq_ok.mpr ⟨_, Value.coerce?_of_hasKind (Value.hasKind_zero _), rfl⟩
      · rw [getElem?_put]
        by_cases same : j = i
        · rw [if_pos same.symm, if_pos same, same, stored]
        · rw [if_neg (Ne.symm same), if_neg same]
  · rw [dif_neg h]
    have hf : r.schema.fields[i]? = none := List.getElem?_eq_none (Nat.le_of_not_lt h)
    refine ⟨r, rfl, rfl, fun j => ?_⟩
    split
    · rename_i same
      rw [same, r.getElem?_values_eq_none hf]
      exact (r.stored.getElem?_values_eq_none hf).symm
    · rfl

/-- After the first fields are done, their values are those that are stored. -/
theorem foldlM_blankAt (r : Record) : ∀ n, ∃ r', (List.range n).foldlM blankAt r = .ok r' ∧
    r'.schema = r.schema ∧
    ∀ j : Nat, r'.values[j]? = if j < n then r.stored.values[j]? else r.values[j]? := by
  intro n
  induction n with
  | zero => exact ⟨r, rfl, rfl, fun j => rfl⟩
  | succ n ih =>
    obtain ⟨q, hq, schema, values⟩ := ih
    obtain ⟨q', hq', schema', values'⟩ := q.blankAt_eq n
    refine ⟨q', ?_, schema'.trans schema, fun j => ?_⟩
    · rw [List.range_succ, List.foldlM_append, hq]
      show (q.blankAt n >>= fun a => pure a) = .ok q'
      rw [hq']
      rfl
    · -- the field that is done now holds what it held at first
      have now : q.stored.values[n]? = r.stored.values[n]? := by
        cases hf : r.schema.fields[n]? with
        | none =>
          rw [q.stored.getElem?_values_eq_none (schema ▸ hf), r.stored.getElem?_values_eq_none hf]
        | some f =>
          rw [q.getElem?_stored (schema ▸ hf), r.getElem?_stored hf, values n,
            if_neg (Nat.lt_irrefl n)]
      rw [values']
      by_cases same : j = n
      · rw [if_pos same, if_pos (by omega), same, now]
      · rw [if_neg same, values]
        by_cases before : j < n
        · rw [if_pos before, if_pos (by omega)]
        · rw [if_neg before, if_neg (by omega)]

/-- **Blanking field by field is never refused**, and gives what is stored. -/
theorem blankAll_eq (r : Record) : r.blankAll = .ok r.stored := by
  obtain ⟨r', done, schema, values⟩ := r.foldlM_blankAt r.schema.fields.length
  have all : r' = r.stored := by
    refine ext_of_values schema fun j => ?_
    rw [values]
    split
    · rfl
    · rename_i outside
      have hf : r.schema.fields[j]? = none := List.getElem?_eq_none (Nat.le_of_not_lt outside)
      rw [r.getElem?_values_eq_none hf, r.stored.getElem?_values_eq_none hf]
  unfold blankAll
  rw [done, all]

end Record

/-! ## Writes in place -/

namespace Store

/-- Every collection has the same rows, in the same order, and the same counter. -/
def Alike (st st' : Store) : Prop := ∀ c, st'.table c = st.table c

theorem Alike.refl (st : Store) : st.Alike st := fun _ => rfl

end Store

/-- Two actions end alike: with the same answer, and with tables that are alike, unless the answer
is that no key is left. -/
def Action.Agree {α : Type} (x y : Action α) (st : Store) : Prop :=
  (y st).1 = (x st).1 ∧
    ((x st).1 ≠ .error (.crash .keysExhausted) → (x st).2.Alike (y st).2)

namespace Store

namespace InPlace

/-- Read the table of a collection. -/
def load (c : String) : Action Table := fun st => (.ok (st.table c), st)

/-- Write the table of a collection. -/
def save (c : String) (t : Table) : Action Unit := fun st => (.ok (), st.putTable c t)

/-- Try numbers for a key, one after the other, until no row has the key. Every number is counted
when it is tried. -/
def draw (c : String) (k : Kind) : (span : Nat) → Action Value
  | 0 => throw (.crash .keysExhausted)
  | span + 1 => do
    let t ← load c
    save c { t with counter := t.counter + 1 }
    let candidate := Table.assigned k (t.counter + 1)
    if t.holds candidate then draw c k span else return candidate

/-- Give a record a key if it wants one, and look for a row with the key that it has otherwise. -/
def withKey (r : Record) : Action Record := do
  let t ← load r.schema.collection
  if Table.wantsKey r then
    let key ← draw r.schema.collection r.schema.keyField.kind (Decimal.maxInt64 - t.counter)
    liftExcept ((r.setAt r.schema.primaryKey key).mapError Failure.record)
  else if t.holds r.key then throw (.badRequest (.duplicateKey r.schema.collection r.key))
  else return r

/-- Blank a record for storing. -/
def blanked (r : Record) : Action Record := liftExcept (r.blankAll.mapError Failure.record)

/-- Add a record in place, and give back what is stored. -/
def insert (r : Record) : Action Record := do
  let entered ← load r.schema.collection
  -- a collection that is not there yet is entered here, whatever comes of the record
  save r.schema.collection entered
  let keyed ← withKey r
  let stored ← blanked keyed
  let t ← load r.schema.collection
  save r.schema.collection { t with rows := t.rows ++ [stored] }
  return stored

/-- Write a record over the row with its key in place, and give back what is stored. -/
def update (r : Record) : Action Record := do
  let t ← load r.schema.collection
  if t.holds r.key then
    let stored ← blanked r
    save r.schema.collection { t with rows := Table.replace r.key stored t.rows }
    return stored
  else throw (.notFound (.row r.schema.collection))

section Steps

variable {α : Type} (c : String) (t : Table) (st : Store)

@[simp] theorem load_bind_apply (f : Table → Action α) : (load c >>= f) st = f (st.table c) st :=
  rfl

@[simp] theorem save_bind_apply (f : Unit → Action α) :
    (save c t >>= f) st = f () (st.putTable c t) := rfl

@[simp] theorem blanked_bind_apply (r : Record) (f : Record → Action α) :
    (blanked r >>= f) st = f r.stored st := by
  unfold blanked
  rw [Record.blankAll_eq]
  rfl

end Steps

/-! ### Drawing a number -/

variable {c : String} {k : Kind} {r : Record} {st : Store}

/-- Which numbers are free does not depend on the counter. -/
theorem freeFrom?_counter (t : Table) (m : Nat) : ∀ span n,
    Table.freeFrom? { t with counter := m } k span n = t.freeFrom? k span n
  | 0, _ => rfl
  | span + 1, n => by
    have same : Table.holds { t with counter := m } (Table.assigned k (n + 1)) =
        t.holds (Table.assigned k (n + 1)) := rfl
    unfold Table.freeFrom?
    rw [same, freeFrom?_counter t m span (n + 1)]

/-- One try, and the tries after it. -/
theorem draw_succ (c : String) (k : Kind) (span : Nat) (st : Store) :
    draw c k (span + 1) st =
      if (st.table c).holds (Table.assigned k ((st.table c).counter + 1)) then
        draw c k span (st.putTable c { st.table c with counter := (st.table c).counter + 1 })
      else (.ok (Table.assigned k ((st.table c).counter + 1)),
        st.putTable c { st.table c with counter := (st.table c).counter + 1 }) := by
  rw [draw]
  simp only [load_bind_apply, save_bind_apply]
  split <;> rfl

/-- **The first number that is free is drawn**, and the counter is where it stopped. -/
theorem draw_of_free : ∀ {span n : Nat} {st : Store},
    (st.table c).freeFrom? k span (st.table c).counter = some n →
      ∃ st', draw c k span st = (.ok (Table.assigned k n), st') ∧
        ∀ d, st'.table d = if c = d then { st.table c with counter := n } else st.table d
  | 0, _, _, h => absurd h (by simp [Table.freeFrom?])
  | span + 1, n, st, h => by
    have counted := fun d =>
      st.table_putTable c d { st.table c with counter := (st.table c).counter + 1 }
    rw [draw_succ]
    unfold Table.freeFrom? at h
    split at h
    · rename_i taken
      rw [if_pos taken]
      have rest : ((st.putTable c
          { st.table c with counter := (st.table c).counter + 1 }).table c).freeFrom? k span
          ((st.putTable c { st.table c with counter := (st.table c).counter + 1 }).table c).counter
            = some n := by
        rw [counted, if_pos rfl, freeFrom?_counter]
        exact h
      obtain ⟨st', drawn, tables⟩ := draw_of_free rest
      refine ⟨st', drawn, fun d => ?_⟩
      rw [tables, counted, if_pos rfl]
      split
      · rfl
      · rename_i other
        rw [counted, if_neg other]
    · rename_i free
      obtain rfl := Option.some.inj h
      rw [if_neg free]
      exact ⟨_, rfl, counted⟩

/-- Where no number is free the drawing ends without one. -/
theorem draw_of_full : ∀ {span : Nat} {st : Store},
    (st.table c).freeFrom? k span (st.table c).counter = none →
      (draw c k span st).1 = .error (.crash .keysExhausted)
  | 0, _, _ => rfl
  | span + 1, st, h => by
    have counted := st.table_putTable c c { st.table c with counter := (st.table c).counter + 1 }
    rw [if_pos rfl] at counted
    rw [draw_succ]
    unfold Table.freeFrom? at h
    split at h
    · rename_i taken
      rw [if_pos taken]
      refine draw_of_full ?_
      rw [counted, freeFrom?_counter]
      exact h
    · exact absurd h (by simp)

/-! ### The same outcome -/

theorem alike_enter (c : String) (st : Store) : st.Alike (st.putTable c (st.table c)) := by
  intro d
  rw [table_putTable]
  split
  · rename_i same
    rw [same]
  · rfl

variable {keyed : Record} {key : Value} {st' : Store}

/-- A record that wants no key keeps the one it has, unless a row has it. -/
theorem withKey_of_not_wantsKey (st : Store) (h : Table.wantsKey r = false) : withKey r st =
    (if (st.table r.schema.collection).holds r.key then
      .error (.badRequest (.duplicateKey r.schema.collection r.key)) else .ok r, st) := by
  unfold withKey
  rw [load_bind_apply, if_neg (by simp [h])]
  split <;> rfl

/-- A record that wants a key gets the one that is drawn. -/
theorem withKey_of_draw (h : Table.wantsKey r = true)
    (drawn : draw r.schema.collection r.schema.keyField.kind
      (Decimal.maxInt64 - (st.table r.schema.collection).counter) st = (.ok key, st'))
    (set : r.setAt r.schema.primaryKey key = .ok keyed) : withKey r st = (.ok keyed, st') := by
  unfold withKey
  rw [load_bind_apply, if_pos h, Action.bind_apply, drawn]
  simp only [set]
  rfl

theorem withKey_of_draw_error {failure : Failure} (h : Table.wantsKey r = true)
    (drawn : draw r.schema.collection r.schema.keyField.kind
      (Decimal.maxInt64 - (st.table r.schema.collection).counter) st = (.error failure, st')) :
    withKey r st = (.error failure, st') := by
  unfold withKey
  rw [load_bind_apply, if_pos h, Action.bind_apply, drawn]

/-- What comes after the key is settled. -/
theorem insert_of_withKey
    (h : withKey r (st.putTable r.schema.collection (st.table r.schema.collection)) =
      (.ok keyed, st')) :
    insert r st = (.ok keyed.stored, st'.putTable r.schema.collection
      { st'.table r.schema.collection with
        rows := (st'.table r.schema.collection).rows ++ [keyed.stored] }) := by
  unfold insert
  simp only [load_bind_apply, save_bind_apply]
  rw [Action.bind_apply, h]
  simp only [blanked_bind_apply, load_bind_apply, save_bind_apply]
  rfl

theorem insert_of_withKey_error {failure : Failure}
    (h : withKey r (st.putTable r.schema.collection (st.table r.schema.collection)) =
      (.error failure, st')) : insert r st = (.error failure, st') := by
  unfold insert
  simp only [load_bind_apply, save_bind_apply]
  rw [Action.bind_apply, h]

/-- **An insertion in place** answers what the insertion of one step answers, and leaves the same
tables. -/
theorem insert_alike (hs : r.schema.Sound) (st : Store) :
    Action.Agree (Store.insert r) (insert r) st := by
  unfold Action.Agree
  have entered := alike_enter r.schema.collection st
  have here := entered r.schema.collection
  cases wants : Table.wantsKey r with
  | false =>
    have settled := withKey_of_not_wantsKey
      (st.putTable r.schema.collection (st.table r.schema.collection)) wants
    have inserted := Table.insert_of_not_wantsKey wants (t := st.table r.schema.collection)
    rw [here] at settled
    by_cases held : (st.table r.schema.collection).holds r.key = true
    · rw [if_pos held] at settled inserted
      rw [insert_of_withKey_error settled, Store.insert, change_of_error inserted]
      exact ⟨rfl, fun _ => entered⟩
    · rw [if_neg held] at settled inserted
      rw [insert_of_withKey settled, Store.insert, change_of_ok inserted, here]
      refine ⟨rfl, fun _ d => ?_⟩
      rw [table_putTable, entered, table_putTable]
  | true =>
    rcases (st.table r.schema.collection).insert_of_wantsKey hs wants with
      ⟨none, failed⟩ | ⟨n, w, some, fits, ok⟩
    · have answer := draw_of_full (by rw [here]; exact none)
      obtain ⟨st', drawn⟩ : ∃ st', draw r.schema.collection r.schema.keyField.kind
          (Decimal.maxInt64 - (st.table r.schema.collection).counter)
          (st.putTable r.schema.collection (st.table r.schema.collection)) =
            (.error (.crash .keysExhausted), st') := ⟨_, Prod.ext answer rfl⟩
      rw [insert_of_withKey_error (withKey_of_draw_error wants (by rw [here]; exact drawn)),
        Store.insert, change_of_error failed]
      exact ⟨rfl, fun h => absurd rfl h⟩
    · obtain ⟨st', drawn, tables⟩ := draw_of_free (by rw [here]; exact some)
      have set : r.setAt r.schema.primaryKey (Table.assigned r.schema.keyField.kind n) =
          .ok (r.put r.schema.primaryKey w) := Record.setAt_eq_ok.mpr ⟨w, fits, rfl⟩
      have settled := withKey_of_draw wants (by rw [here]; exact drawn) set
      rw [insert_of_withKey settled, Store.insert, change_of_ok ok, tables, if_pos rfl, here]
      refine ⟨rfl, fun _ d => ?_⟩
      rw [table_putTable, table_putTable]
      split
      · rfl
      · rename_i other
        rw [tables, if_neg other, entered]

/-- **An update in place** answers what the update of one step answers, and leaves the same
tables. -/
theorem update_alike (r : Record) (st : Store) :
    Action.Agree (Store.update r) (update r) st := by
  unfold Action.Agree Store.update change update Table.update
  rw [load_bind_apply]
  by_cases held : (st.table r.schema.collection).holds r.key = true
  · simp only [if_pos held, blanked_bind_apply]
    exact ⟨rfl, fun _ => .refl _⟩
  · simp only [if_neg held]
    exact ⟨rfl, fun _ => .refl _⟩

end InPlace

end Store

/-! ## Requests -/

/-- The two ways to write to a store. -/
structure Writes where
  insert : Record → Action Record
  update : Record → Action Record

namespace Writes

/-- Each write is one step. -/
def atomic : Writes := ⟨Store.insert, Store.update⟩

/-- Each write is done in place. -/
def inPlace : Writes := ⟨Store.InPlace.insert, Store.InPlace.update⟩

end Writes

namespace Request

/-- Serve a request at a time, with the writes of a store. -/
def serveWith (w : Writes) (sv : Service) (now : Int64) : Request → Action Answer
  | .list resource params => Answer.documents <$> sv.list resource params
  | .read resource id => Answer.record <$> sv.read resource id
  | .create resource body => Answer.record <$> do
    let s ← liftExcept (sv.schema resource .create)
    let r ← liftExcept (sv.created now s body)
    w.insert r
  | .update resource id body => Answer.record <$> do
    let s ← liftExcept (sv.schema resource .update)
    let current ← Service.fetch s id
    let r ← liftExcept (sv.revised now s body current)
    w.update r
  | .delete resource id => Answer.record <$> do
    let s ← liftExcept (sv.schema resource .delete)
    let current ← Service.fetch s id
    let r ← liftExcept (sv.deleted now s current)
    w.update r

/-- The service writes in single steps. -/
theorem serveWith_atomic (sv : Service) (now : Int64) (request : Request) :
    request.serveWith .atomic sv now = request.serve sv now := by
  cases request <;> rfl

/-- A request that only reads. -/
def IsRead : Request → Prop
  | .list _ _ => True
  | .read _ _ => True
  | _ => False

end Request

/-! ### What fails leaves the store as it was -/

namespace Action

variable {α β : Type} {st : Store}

/-- An action that leaves the store as it was if it fails. -/
def Spares (x : Action α) (st : Store) : Prop :=
  ∀ failure, (x st).1 = .error failure → (x st).2 = st

theorem Spares.map {x : Action α} (h : x.Spares st) (g : α → β) : Spares (g <$> x) st := by
  unfold Spares at h ⊢
  rw [map_apply]
  intro failure failed
  cases hx : (x st).1 with
  | error failure' => exact h failure' hx
  | ok a =>
    rw [hx] at failed
    exact absurd failed (by simp [Except.map])

theorem spares_lift {x : Except Failure α} {f : α → Action β}
    (hf : ∀ a, x = .ok a → (f a).Spares st) : Spares (liftExcept x >>= f) st := by
  unfold Spares
  rw [liftExcept_bind_apply]
  cases x with
  | error failure => exact fun _ _ => rfl
  | ok a => exact hf a rfl

theorem spares_found {s : Schema} {id : Value} {f : Record → Action β}
    (hf : ∀ current, (f current).Spares st) : Spares (Service.fetch s id >>= f) st := by
  unfold Spares
  rw [bind_apply, Service.fetch_apply]
  cases (st.table s.collection).find? id with
  | none => exact fun _ _ => rfl
  | some current => exact hf current

theorem spares_change (c : String) (f : Table → Except Failure (α × Table)) :
    Spares (Store.change c f) st :=
  fun _ failed => Store.change_eq_error (Prod.ext failed rfl)

/-! ### What ends alike -/

theorem Agree.refl (x : Action α) (st : Store) : x.Agree x st := ⟨rfl, fun _ => .refl _⟩

theorem Agree.map {x y : Action α} (h : x.Agree y st) (g : α → β) :
    Agree (g <$> x) (g <$> y) st := by
  unfold Agree at h ⊢
  rw [map_apply, map_apply]
  refine ⟨congrArg (Except.map g) h.1, fun answered => h.2 fun stopped => answered ?_⟩
  simp only [stopped, Except.map]

theorem agree_lift {x : Except Failure α} {f g : α → Action β}
    (hf : ∀ a, x = .ok a → (f a).Agree (g a) st) :
    Agree (liftExcept x >>= f) (liftExcept x >>= g) st := by
  unfold Agree
  rw [liftExcept_bind_apply, liftExcept_bind_apply]
  cases x with
  | error failure => exact ⟨rfl, fun _ => .refl _⟩
  | ok a => exact hf a rfl

theorem agree_found {s : Schema} {id : Value} {f g : Record → Action β}
    (hf : ∀ current, (f current).Agree (g current) st) :
    Agree (Service.fetch s id >>= f) (Service.fetch s id >>= g) st := by
  unfold Agree
  rw [bind_apply, bind_apply, Service.fetch_apply]
  cases (st.table s.collection).find? id with
  | none => exact ⟨rfl, fun _ => .refl _⟩
  | some current => exact hf current

end Action

/-! ## Hooks -/

namespace Lifecycle

/-- A record that passes the hook for new records is still one of its schema. -/
def KeepsSchema (l : Lifecycle) : Prop :=
  ∀ now r r', l.preInsert now r = .ok r' → r'.schema = r.schema

/-- Hooks that stamp or only check keep the schema. -/
theorem Standard.keepsSchema {l : Lifecycle} (hl : l.Standard) : l.KeepsSchema :=
  fun _ _ _ h => (hl.preInsert h).1

/-- Hooks that refuse every new record keep the schema, and so do those that change none. -/
theorem keepsSchema_of_rejects {l : Lifecycle}
    (h : ∀ now r r', l.preInsert now r = .ok r' → r' = r) : l.KeepsSchema :=
  fun now r r' ok => congrArg Record.schema (h now r r' ok)

theorem keepsSchema_closed (why : String) : (closed why).KeepsSchema :=
  keepsSchema_of_rejects fun _ _ _ h => absurd h (by simp [closed])

end Lifecycle

/-! ## Requests are atomic -/

namespace Request

variable {sv : Service} {now : Int64} {st : Store}

theorem list_snd (sv : Service) (resource : String) (params : List (String × String))
    (st : Store) : (sv.list resource params st).2 = st := by
  cases hs : sv.schema resource .list with
  | error failure =>
    unfold Service.list
    rw [Action.liftExcept_bind_apply, hs]
  | ok s => rw [sv.list_apply hs]

theorem read_snd (sv : Service) (resource : String) (id : Value) (st : Store) :
    (sv.read resource id st).2 = st := by
  unfold Service.read
  rw [Action.liftExcept_bind_apply]
  cases sv.schema resource .read with
  | error failure => rfl
  | ok s =>
    dsimp only
    rw [Service.fetch_apply]
    cases (st.table s.collection).find? id <;> rfl

/-- A request that only reads leaves the store as it was, whatever it is answered. -/
theorem serve_of_isRead {request : Request} (h : request.IsRead) :
    (request.serve sv now st).2 = st := by
  cases request with
  | list resource params =>
    show ((Answer.documents <$> sv.list resource params) st).2 = st
    rw [Action.map_apply, list_snd]
  | read resource id =>
    show ((Answer.record <$> sv.read resource id) st).2 = st
    rw [Action.map_apply, read_snd]
  | create => exact h.elim
  | update => exact h.elim
  | delete => exact h.elim

/-- **A request that fails leaves the store as it was.** -/
theorem spares_serve (sv : Service) (now : Int64) (st : Store) (request : Request) :
    (request.serve sv now).Spares st := by
  cases request with
  | list resource params => exact fun _ _ => serve_of_isRead trivial
  | read resource id => exact fun _ _ => serve_of_isRead trivial
  | create resource body =>
    refine Action.Spares.map (Action.spares_lift fun s _ => ?_) _
    exact Action.spares_lift fun r _ => Action.spares_change _ _
  | update resource id body =>
    refine Action.Spares.map (Action.spares_lift fun s _ => ?_) _
    refine Action.spares_found fun current => ?_
    exact Action.spares_lift fun r _ => Action.spares_change _ _
  | delete resource id =>
    refine Action.Spares.map (Action.spares_lift fun s _ => ?_) _
    refine Action.spares_found fun current => ?_
    exact Action.spares_lift fun r _ => Action.spares_change _ _

/-- **A service that writes in place** answers what one that writes in single steps answers, and
leaves the same tables. -/
theorem serveWith_alike (hreg : sv.registry.Sound)
    (hl : ∀ s ∈ sv.registry.schemas, (sv.lifecycleOf s).KeepsSchema) (now : Int64) (st : Store)
    (request : Request) :
    Action.Agree (request.serve sv now) (request.serveWith .inPlace sv now) st := by
  cases request with
  | list resource params => exact .refl _ st
  | read resource id => exact .refl _ st
  | create resource body =>
    refine Action.Agree.map (Action.agree_lift fun s hs => Action.agree_lift fun r hr => ?_) _
    obtain ⟨hmem, -, -⟩ := Service.schema_eq_ok hs
    obtain ⟨decoded, hdecode, hinsert⟩ := bind_eq_ok.mp hr
    have schema : r.schema = s :=
      (hl s hmem now decoded r hinsert).trans (Service.decode_eq_ok hdecode).1
    exact Store.InPlace.insert_alike (schema ▸ hreg.schemas s hmem) st
  | update resource id body =>
    refine Action.Agree.map (Action.agree_lift fun s _ => ?_) _
    refine Action.agree_found fun current => ?_
    exact Action.agree_lift fun r _ => Store.InPlace.update_alike r st
  | delete resource id =>
    refine Action.Agree.map (Action.agree_lift fun s _ => ?_) _
    refine Action.agree_found fun current => ?_
    exact Action.agree_lift fun r _ => Store.InPlace.update_alike r st

/-- **Failures are atomic.** Whatever hooks the resources have, as long as new records keep their
schema, and whatever is stored: a request that fails leaves every table as it was, its rows, their
order and its counter; so does the write of a request that others came between; and a request that
only reads changes nothing even if it succeeds. This holds of a store that works in place as it does
of one whose actions are single steps. -/
theorem failures_are_atomic {d : Descriptor} (hreg : d.resolve = .ok sv.registry)
    (hl : ∀ s ∈ sv.registry.schemas, (sv.lifecycleOf s).KeepsSchema) (now : Int64) (st : Store)
    (request : Request) :
    (∀ failure, (request.serve sv now st).1 = .error failure →
      (request.serve sv now st).2 = st) ∧
    (∀ failure, (request.serveWith .inPlace sv now st).1 = .error failure →
      failure ≠ .crash .keysExhausted →
        st.Alike (request.serveWith .inPlace sv now st).2) ∧
    (∀ (p : Pending) failure, (p.write sv now st).1 = .error failure →
      (p.write sv now st).2 = st) ∧
    (request.IsRead → (request.serve sv now st).2 = st ∧
      (request.serveWith .inPlace sv now st).2 = st) := by
  have spared := spares_serve sv now st request
  refine ⟨spared, ?_, ?_, ?_⟩
  · intro failure failed answered
    obtain ⟨answer, alike⟩ :=
      serveWith_alike (Registry.sound_of_resolve hreg) hl now st request
    rw [failed] at answer
    have unchanged := alike (by rw [← answer]; simpa using answered)
    rw [spared failure answer.symm] at unchanged
    exact unchanged
  · intro p failure failed
    rcases Pending.write_cases (Prod.eta (p.write sv now st)).symm with
      ⟨-, unchanged⟩ | ⟨r, stored, -, ok, -⟩
    · exact unchanged
    · rw [failed] at ok
      exact absurd ok (by simp)
  · intro reads
    have unchanged : (request.serve sv now st).2 = st := serve_of_isRead reads
    refine ⟨unchanged, ?_⟩
    cases request with
    | list => exact unchanged
    | read => exact unchanged
    | create => exact reads.elim
    | update => exact reads.elim
    | delete => exact reads.elim

/-- A document with a key that the first note has. -/
def duplicate : Json := .object [("id", .number (.nat 1))]

theorem failures_are_atomic_duplicate :
    notes.resolve = .ok noteService.registry ∧
    (∀ s ∈ noteService.registry.schemas, (noteService.lifecycleOf s).KeepsSchema) ∧
    ((Request.create "note" duplicate).serveWith .inPlace noteService 20 (oneNote firstNote)).1 =
      .error (.badRequest (.duplicateKey "note" (.int 1))) ∧
    (oneNote firstNote).Alike
      ((Request.create "note" duplicate).serveWith .inPlace noteService 20 (oneNote firstNote)).2 ∧
    ((Request.create "note" duplicate).serve noteService 20 (oneNote firstNote)).2 =
      oneNote firstNote := by
  have keeps : ∀ s ∈ noteService.registry.schemas, (noteService.lifecycleOf s).KeepsSchema :=
    fun s hs => (standard_notes s hs).keepsSchema
  have refused : ((Request.create "note" duplicate).serveWith .inPlace noteService 20
      (oneNote firstNote)).1 = .error (.badRequest (.duplicateKey "note" (.int 1))) := rfl
  have refused' : ((Request.create "note" duplicate).serve noteService 20
      (oneNote firstNote)).1 = .error (.badRequest (.duplicateKey "note" (.int 1))) := rfl
  obtain ⟨step, place, -, -⟩ := failures_are_atomic notes_resolve keeps 20 (oneNote firstNote)
    (.create "note" duplicate)
  exact ⟨notes_resolve, keeps, refused, place _ refused (by simp), step _ refused'⟩

end Request

end Registrar
