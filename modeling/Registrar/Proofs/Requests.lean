import Registrar.Proofs.Runs
import Registrar.Proofs.Writes

/-!
# Requests side by side

A request to change or to delete a record takes two steps of the store: it finds a row, and later
it writes. Between the two it holds a copy of the row, and other requests may take steps of their
own. `Traffic` is a store with the copies that are held, `Traffic.Step` one step of any request.

* `run_of_update`, `run_of_delete`: a request that is left alone is a run of these steps.
* `Pending.work_spec`: what is written differs from the copy only where a record may change.
* `sane_of_run`: every row and every copy is a well-typed record of a resource of the registry.
-/

namespace Registrar

/-! ## Actions of the service -/

namespace Action

variable {α β : Type}

theorem bind_apply (x : Action α) (f : α → Action β) (st : Store) :
    (x >>= f) st = match x st with
      | (.ok a, st') => f a st'
      | (.error failure, st') => (.error failure, st') := by
  show (match x st with | (a, st') => ExceptT.bindCont f a st') = _
  rcases x st with ⟨failure | a, st'⟩ <;> rfl

theorem liftExcept_apply (x : Except Failure α) (st : Store) :
    (liftExcept x : Action α) st = (x, st) := by
  cases x <;> rfl

/-- What comes after something that touches no store either is not reached or runs from there. -/
theorem liftExcept_bind_apply (x : Except Failure α) (f : α → Action β) (st : Store) :
    ((liftExcept x : Action α) >>= f) st = match x with
      | .ok a => f a st
      | .error failure => (.error failure, st) := by
  rw [bind_apply, liftExcept_apply]
  cases x <;> rfl

end Action

namespace Service

variable {sv : Service} {now : Int64} {s : Schema} {id : Value} {body : Json} {resource : String}
  {current r : Record} {st : Store}

theorem fetch_apply (s : Schema) (id : Value) (st : Store) :
    fetch s id st = match (st.table s.collection).find? id with
      | some r => (.ok r, st)
      | none => (.error (.notFound (.row s.collection)), st) := by
  unfold fetch
  rw [Action.bind_apply]
  show (match (st.table s.collection).find? id with
    | some r => (pure r : Action Record)
    | none => throw (Failure.notFound (.row s.collection))) st = _
  cases (st.table s.collection).find? id <;> rfl

theorem fetch_eq_ok {st' : Store} :
    fetch s id st = (.ok r, st') ↔ (st.table s.collection).find? id = some r ∧ st' = st := by
  rw [fetch_apply]
  cases (st.table s.collection).find? id with
  | none => exact ⟨fun h => absurd (Prod.mk.inj h).1 (by simp), fun h => absurd h.1 (by simp)⟩
  | some q =>
    constructor
    · intro h
      obtain ⟨found, store⟩ := Prod.mk.inj h
      exact ⟨congrArg some (Except.ok.inj found), store.symm⟩
    · rintro ⟨found, rfl⟩
      rw [Option.some.inj found]

end Service

/-! ## Requests under way -/

/-- What a request does to a record. -/
inductive Change where
  | revision (body : Json)
  | deletion

namespace Change

/-- The operation that a resource must expose. -/
def operation : Change → Operation
  | .revision _ => .update
  | .deletion => .delete

/-- The record to be written for a copy of a row. -/
def work (sv : Service) (now : Int64) (s : Schema) (current : Record) :
    Change → Except Failure Record
  | .revision body => sv.revised now s body current
  | .deletion => sv.deleted now s current

end Change

/-- A request that has found a row and has not written yet. -/
structure Pending where
  schema : Schema
  change : Change
  /-- The row as it was found. -/
  current : Record

/-- The second step of a request. -/
def Pending.write (p : Pending) (sv : Service) (now : Int64) : Action Record := do
  let r ← liftExcept (p.change.work sv now p.schema p.current)
  Store.update r

/-- A store and the requests under way. -/
structure Traffic where
  store : Store
  pending : List Pending

namespace Traffic

/-- Nothing stored, nothing under way. -/
def start : Traffic := ⟨.empty, []⟩

/-- One step of one request: a creation, the finding of a row, or a write. The time is the one the
hooks are given. -/
inductive Step (sv : Service) : Traffic → Traffic → Prop
  | create (t : Traffic) (now : Int64) (resource : String) (body : Json) :
      Step sv t ⟨(sv.create now resource body t.store).2, t.pending⟩
  | find (t : Traffic) (change : Change) {resource : String} {s : Schema} {id : Value}
      {current : Record} {st : Store} (hs : sv.schema resource change.operation = .ok s)
      (hfind : Service.fetch s id t.store = (.ok current, st)) :
      Step sv t ⟨st, ⟨s, change, current⟩ :: t.pending⟩
  | write (st : Store) (before after : List Pending) (p : Pending) (now : Int64) :
      Step sv ⟨st, before ++ p :: after⟩ ⟨(p.write sv now st).2, before ++ after⟩

/-- What requests make of an empty store. -/
def Reachable (sv : Service) (t : Traffic) : Prop := Relation.ReflTransGen (Step sv) start t

end Traffic

namespace Service

variable {sv : Service} {now : Int64} {s : Schema} {id : Value} {body : Json} {resource : String}
  {current r : Record} {st : Store}

/-- What comes after the finding of a row is not reached or runs on what is found. -/
theorem found_or_failed (s : Schema) (id : Value) (st : Store) (f : Record → Action Record) :
    (∃ failure, (fetch s id >>= f) st = (.error failure, st)) ∨
      ∃ current, (st.table s.collection).find? id = some current ∧
        (fetch s id >>= f) st = f current st := by
  rw [Action.bind_apply, fetch_apply]
  cases hfind : (st.table s.collection).find? id with
  | none => exact .inl ⟨_, rfl⟩
  | some current => exact .inr ⟨current, rfl, rfl⟩

/-- An update left alone fails before it writes, or writes what it finds. -/
theorem update_eq (sv : Service) (now : Int64) (resource : String) (id : Value) (body : Json)
    (st : Store) :
    (∃ failure, sv.update now resource id body st = (.error failure, st)) ∨
      ∃ s current, sv.schema resource .update = .ok s ∧
        (st.table s.collection).find? id = some current ∧ sv.update now resource id body st =
          (Pending.mk s (.revision body) current).write sv now st := by
  unfold update
  rw [Action.liftExcept_bind_apply]
  cases sv.schema resource .update with
  | error failure => exact .inl ⟨failure, rfl⟩
  | ok s =>
    rcases found_or_failed s id st _ with failed | ⟨current, hfind, eq⟩
    · exact .inl failed
    · exact .inr ⟨s, current, rfl, hfind, eq⟩

/-- A deletion left alone fails before it writes, or writes what it finds. -/
theorem delete_eq (sv : Service) (now : Int64) (resource : String) (id : Value) (st : Store) :
    (∃ failure, sv.delete now resource id st = (.error failure, st)) ∨
      ∃ s current, sv.schema resource .delete = .ok s ∧
        (st.table s.collection).find? id = some current ∧ sv.delete now resource id st =
          (Pending.mk s .deletion current).write sv now st := by
  unfold delete
  rw [Action.liftExcept_bind_apply]
  cases sv.schema resource .delete with
  | error failure => exact .inl ⟨failure, rfl⟩
  | ok s =>
    rcases found_or_failed s id st _ with failed | ⟨current, hfind, eq⟩
    · exact .inl failed
    · exact .inr ⟨s, current, rfl, hfind, eq⟩

end Service

namespace Traffic

/-- A request that finds a row and writes without a pause takes two steps. -/
theorem run_of_write {sv : Service} {s : Schema} {id : Value} {current : Record} {st : Store}
    {resource : String} (change : Change) (now : Int64) (ps : List Pending)
    (hs : sv.schema resource change.operation = .ok s)
    (hfind : (st.table s.collection).find? id = some current) :
    Relation.ReflTransGen (Step sv) ⟨st, ps⟩
      ⟨((Pending.mk s change current).write sv now st).2, ps⟩ :=
  .head (.find ⟨st, ps⟩ change hs (Service.fetch_eq_ok.mpr ⟨hfind, rfl⟩))
    (.single (.write st [] ps ⟨s, change, current⟩ now))

/-- **Requests left alone are runs**: so is an update, whatever else is under way. -/
theorem run_of_update (sv : Service) (now : Int64) (resource : String) (id : Value) (body : Json)
    (st : Store) (ps : List Pending) :
    Relation.ReflTransGen (Step sv) ⟨st, ps⟩ ⟨(sv.update now resource id body st).2, ps⟩ := by
  rcases sv.update_eq now resource id body st with ⟨failure, failed⟩ | ⟨s, current, hs, hfind, eq⟩
  · rw [failed]
  · rw [eq]
    exact run_of_write (.revision body) now ps hs hfind

theorem run_of_delete (sv : Service) (now : Int64) (resource : String) (id : Value) (st : Store)
    (ps : List Pending) :
    Relation.ReflTransGen (Step sv) ⟨st, ps⟩ ⟨(sv.delete now resource id st).2, ps⟩ := by
  rcases sv.delete_eq now resource id st with ⟨failure, failed⟩ | ⟨s, current, hs, hfind, eq⟩
  · rw [failed]
  · rw [eq]
    exact run_of_write .deletion now ps hs hfind

end Traffic

/-! ## What is written -/

namespace Pending

variable {sv : Service} {now : Int64} {p : Pending} {r : Record} {st st' : Store}
  {answer : Except Failure Record}

/-- A resource of the registry, and a copy of a row of one. -/
structure Fits (sv : Service) (p : Pending) : Prop where
  schema : p.schema ∈ sv.registry.schemas
  current : p.current.schema ∈ sv.registry.schemas
  typed : p.current.WellTyped
  settled : p.current.Settled

/-- **What is written differs from the copy** only where a record may change. -/
theorem work_spec (hreg : sv.registry.Sound) (hstd : sv.Standard) (hp : p.Fits sv)
    (h : p.change.work sv now p.schema p.current = .ok r) :
    Record.EqOff p.current.schema.Changes p.current r ∧ r.WellTyped := by
  have hl := hstd _ hp.schema
  unfold Change.work at h
  split at h
  · rename_i body
    have same : p.current.schema = p.schema :=
      hreg.eq_of_name hp.current hp.schema (Service.name_of_revised h)
    obtain ⟨off, typed⟩ := Service.revised_spec (hreg.schemas _ hp.schema) hl same hp.typed h
    refine ⟨off.mono fun i hi => ?_, typed⟩
    rw [same]
    rcases hi with merge | ⟨-, updated⟩
    · exact .inl merge
    · exact .inr (.inl updated)
  · obtain ⟨off, typed⟩ := Service.deleted_spec (hreg.schemas _ hp.current) hl hp.typed h
    refine ⟨off.mono fun i hi => ?_, typed⟩
    rcases hi with flag | ⟨-, updated⟩
    · exact .inr (.inr flag)
    · exact .inr (.inl updated)

/-- A write does nothing or updates the store with what was worked out. -/
theorem write_cases (h : p.write sv now st = (answer, st')) :
    ((∃ failure, answer = .error failure) ∧ st' = st) ∨
      ∃ r stored, p.change.work sv now p.schema p.current = .ok r ∧ answer = .ok stored ∧
        Store.update r st = (.ok stored, st') := by
  unfold write at h
  rw [Action.liftExcept_bind_apply] at h
  split at h
  · rename_i r hwork
    cases answer with
    | error failure => exact .inl ⟨⟨failure, rfl⟩, Store.change_eq_error h⟩
    | ok stored => exact .inr ⟨r, stored, hwork, rfl, h⟩
  · obtain ⟨rfl, rfl⟩ := Prod.mk.inj h
    exact .inl ⟨⟨_, rfl⟩, rfl⟩

end Pending

namespace Service

variable {sv : Service} {now : Int64} {st st' : Store} {resource : String} {id : Value}
  {body : Json} {answer : Except Failure Record}

/-- A creation does nothing or inserts the record of its document. -/
theorem create_cases (h : sv.create now resource body st = (answer, st')) :
    ((∃ failure, answer = .error failure) ∧ st' = st) ∨
      ∃ s r stored, sv.schema resource .create = .ok s ∧ sv.created now s body = .ok r ∧
        answer = .ok stored ∧ Store.insert r st = (.ok stored, st') := by
  unfold create at h
  rw [Action.liftExcept_bind_apply] at h
  split at h
  · rename_i s hs
    rw [Action.liftExcept_bind_apply] at h
    split at h
    · rename_i r hr
      cases answer with
      | error failure => exact .inl ⟨⟨failure, rfl⟩, Store.change_eq_error h⟩
      | ok stored => exact .inr ⟨s, r, stored, hs, hr, rfl, h⟩
    · obtain ⟨rfl, rfl⟩ := Prod.mk.inj h
      exact .inl ⟨⟨_, rfl⟩, rfl⟩
  · obtain ⟨rfl, rfl⟩ := Prod.mk.inj h
    exact .inl ⟨⟨_, rfl⟩, rfl⟩

/-- An update left alone does nothing or writes what it makes of the row it finds. -/
theorem update_cases (h : sv.update now resource id body st = (answer, st')) :
    ((∃ failure, answer = .error failure) ∧ st' = st) ∨
      ∃ s current r stored, sv.schema resource .update = .ok s ∧
        (st.table s.collection).find? id = some current ∧
        sv.revised now s body current = .ok r ∧ answer = .ok stored ∧
        Store.update r st = (.ok stored, st') := by
  rcases update_eq sv now resource id body st with ⟨failure, failed⟩ | ⟨s, current, hs, hfind, eq⟩
  · rw [failed] at h
    obtain ⟨rfl, rfl⟩ := Prod.mk.inj h
    exact .inl ⟨⟨_, rfl⟩, rfl⟩
  · rw [eq] at h
    rcases Pending.write_cases h with failed | ⟨r, stored, hwork, answer, h⟩
    · exact .inl failed
    · exact .inr ⟨s, current, r, stored, hs, hfind, hwork, answer, h⟩

end Service

/-! ## Every state -/

namespace Traffic

variable {sv : Service} {t t' : Traffic}

/-- Rows and copies are well-typed records of the resources of the registry. -/
structure Sane (sv : Service) (t : Traffic) : Prop where
  rows : t.store.RowsOf sv.registry.schemas
  pending : ∀ p ∈ t.pending, p.Fits sv

/-- A step of a request is no step of the store or one that a resource of the registry takes. -/
theorem step_store (hreg : sv.registry.Sound) (hstd : sv.Standard) (sane : t.Sane sv)
    (h : Step sv t t') :
    t'.store = t.store ∨ Store.Step sv.registry.schemas t.store t'.store := by
  cases h with
  | create t now resource body =>
    rcases Service.create_cases (Prod.eta _).symm with ⟨-, unchanged⟩ | ⟨s, r, stored, hs, hr, -, h⟩
    · exact .inl unchanged
    · obtain ⟨hs, -, -⟩ := Service.schema_eq_ok hs
      obtain ⟨rfl, typed⟩ := Service.created_spec (hstd _ hs) hr
      exact .inr ⟨.insert r, ⟨hs, typed⟩, (congrArg Prod.snd h).symm⟩
  | find t change hs hfind => exact .inl (Service.fetch_eq_ok.mp hfind).2
  | write st before after p now =>
    rcases Pending.write_cases (Prod.eta _).symm with ⟨-, unchanged⟩ | ⟨r, stored, hwork, -, h⟩
    · exact .inl unchanged
    · have fits := sane.pending p (List.mem_append_right _ List.mem_cons_self)
      obtain ⟨off, typed⟩ := Pending.work_spec hreg hstd fits hwork
      exact .inr ⟨.update r, ⟨off.schema ▸ fits.current, typed⟩, (congrArg Prod.snd h).symm⟩

/-- **What is under way after a step** was before it, or has just found a row. -/
theorem pending_step (h : Step sv t t') {q : Pending} (hq : q ∈ t'.pending) : q ∈ t.pending ∨
    ∃ resource id, sv.schema resource q.change.operation = .ok q.schema ∧
      (t.store.table q.schema.collection).find? id = some q.current := by
  cases h with
  | create t now resource body => exact .inl hq
  | @find t change resource s id current st hs hfind =>
    rcases List.mem_cons.mp hq with rfl | hq
    · exact .inr ⟨resource, id, hs, (Service.fetch_eq_ok.mp hfind).1⟩
    · exact .inl hq
  | write st before after p now =>
    refine .inl ?_
    rcases List.mem_append.mp hq with hq | hq
    · exact List.mem_append_left _ hq
    · exact List.mem_append_right _ (List.mem_cons_of_mem _ hq)

theorem sane_step (hreg : sv.registry.Sound) (hstd : sv.Standard) (sane : t.Sane sv)
    (h : Step sv t t') : t'.Sane sv := by
  constructor
  · rcases step_store hreg hstd sane h with unchanged | step
    · rw [unchanged]
      exact sane.rows
    · exact Store.rowsOf_step hreg.schemas step sane.rows
  · intro q hq
    rcases pending_step h hq with before | ⟨resource, id, hs, hfind⟩
    · exact sane.pending q before
    · obtain ⟨hschema, -, typed, settled⟩ := sane.rows _ _ (List.mem_of_find?_eq_some hfind)
      exact ⟨(Service.schema_eq_ok hs).1, hschema, typed, settled⟩

theorem sane_start (sv : Service) : start.Sane sv :=
  ⟨fun _ _ hr => absurd hr List.not_mem_nil, fun _ hp => absurd hp List.not_mem_nil⟩

/-- **Every row and every copy** is a well-typed record of a resource of the registry. -/
theorem sane_of_run (hreg : sv.registry.Sound) (hstd : sv.Standard) (h : Reachable sv t) :
    t.Sane sv := by
  induction h with
  | refl => exact sane_start sv
  | tail _ step ih => exact sane_step hreg hstd ih step

/-- The store of a reachable state is one that the resources of the registry reach. -/
theorem reachable_store (hreg : sv.registry.Sound) (hstd : sv.Standard) (h : Reachable sv t) :
    Store.Reachable sv.registry.schemas t.store := by
  induction h with
  | refl => exact .refl
  | tail run step ih =>
    rcases step_store hreg hstd (sane_of_run hreg hstd run) step with unchanged | step
    · rw [unchanged]
      exact ih
    · exact ih.tail step

end Traffic

/-! ## The service of notes -/

/-- The service of notes. -/
def noteService : Service := ⟨⟨[note]⟩, .stamped, []⟩

/-- A document with a title. -/
def titled (title : String) : Json := .object [("title", .string title)]

/-- The note that is created first, at time 10. -/
def firstNote : Record :=
  ⟨note, [.int 1, .string "a", .string "", .int 10, .int 10, .bool false], rfl⟩

/-- The first note with another title, given at time 20. -/
def renamedNote : Record :=
  ⟨note, [.int 1, .string "b", .string "", .int 10, .int 20, .bool false], rfl⟩

/-- The store with one note. -/
def oneNote (r : Record) : Store := ⟨[("note", ⟨[r], 1⟩)]⟩

theorem standard_notes : noteService.Standard := fun _ _ => .inl rfl

theorem key_of_note_stays :
    ¬ note.IsMergeable note.primaryKey ∧ ¬ note.IsUpdated note.primaryKey := by
  constructor
  · rintro ⟨f, hf, merge⟩
    obtain rfl := Option.some.inj hf
    exact absurd merge (by decide)
  · show ¬ note.updated.map Fin.val = some 0
    decide

theorem reachable_oneNote : Traffic.Reachable noteService ⟨oneNote firstNote, []⟩ :=
  .single (.create .start 10 "note" (titled "a"))

end Registrar
