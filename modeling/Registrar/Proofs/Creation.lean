import Registrar.Proofs.Literals
import Registrar.Proofs.Lookups
import Registrar.Proofs.Serving
import Registrar.Proofs.Typing

/-!
# What is created is what is read

A creation makes a record of a document: what the document says, the times that the hooks set, a key
that the store may assign, and zeros where a field has no column. What it answers with is what the
store keeps, and it is found again under its key, which is read from a path as it is shown.

* `Record.decodeField_eq_ok_iff`: a field is read as what the document says for it (`Field.Reads`).
* `Service.gives_of_created`: what is handed to the store.
* `Service.makes_of_insert`: what the store makes of it.
* **`Service.create_then_read`**: both, and that a read gives the record back.
-/

namespace Registrar

/-! ## What a document says -/

/-- What the members of a document say for a field: the value under its key, conformed to its kind,
or its zero, if the field is hidden or there is nothing or null under the key. -/
inductive Field.Reads (f : Field) (members : List (String × Json)) : Value → Prop where
  | hidden (shown : f.jsonKey = none) : Reads f members (.zero f.kind)
  | absent {key : String} (shown : f.jsonKey = some key) (found : Entries.get? members key = none) :
    Reads f members (.zero f.kind)
  | null {key : String} (shown : f.jsonKey = some key)
    (found : Entries.get? members key = some .null) : Reads f members (.zero f.kind)
  | given {key : String} {j : Json} {v : Value} (shown : f.jsonKey = some key)
    (found : Entries.get? members key = some j) (solid : j ≠ .null)
    (fits : (Value.ofJson j).coerce? f.kind = some v) : Reads f members v

theorem Value.coerce?_null (k : Kind) : Value.null.coerce? k = some (.zero k) := by
  cases k <;> rfl

/-- **A field is read** as what the document says for it. -/
theorem Record.decodeField_eq_ok_iff {f : Field} {members : List (String × Json)} {v : Value} :
    decodeField members f = .ok v ↔ f.Reads members v := by
  constructor
  · intro h
    unfold decodeField at h
    split at h
    · rename_i hidden
      obtain rfl := Except.ok.inj h
      exact .hidden hidden
    · rename_i key shown
      split at h
      · rename_i absent
        obtain rfl := Except.ok.inj h
        exact .absent shown absent
      · rename_i j found
        simp only at h
        split at h
        · rename_i w fits
          obtain rfl := Except.ok.inj h
          by_cases empty : j = .null
          · subst empty
            obtain rfl := Option.some.inj ((Value.coerce?_null f.kind).symm.trans fits)
            exact .null shown found
          · exact .given shown found empty fits
        · exact absurd h (by simp)
  · intro h
    unfold decodeField
    cases h with
    | hidden shown => simp only [shown]
    | absent shown found => simp only [shown, found]
    | null shown found =>
      have fits : (Value.ofJson .null).coerce? f.kind = some (.zero f.kind) :=
        Value.coerce?_null f.kind
      simp only [shown, found, fits]
    | given shown found _ fits => simp only [shown, found, fits]

/-- A document is read field by field. -/
theorem Service.reads_of_decode {s : Schema} {body : Json} {r : Record}
    (h : Service.decode s body = .ok r) : ∃ members, body = .object members ∧ r.schema = s ∧
      ∀ (i : Nat) (f : Field), s.fields[i]? = some f →
        ∃ v, r.values[i]? = some v ∧ f.Reads members v := by
  unfold decode at h
  split at h
  · rename_i decoded
    obtain rfl := Except.ok.inj h
    cases body with
    | object members =>
      obtain ⟨schema, values⟩ := Record.ofJson_eq_ok_iff.mp decoded
      refine ⟨members, rfl, schema, fun i f hf => ?_⟩
      obtain ⟨v, hv, read⟩ := getElem?_of_forall₂ values hf
      exact ⟨v, hv, Record.decodeField_eq_ok_iff.mp read⟩
    | _ => exact absurd decoded (by simp [Record.ofJson])
  · exact absurd h (by simp)

/-! ## What is handed to the store -/

/-- Whether the store may assign what stands at an index. -/
def Schema.AssignsKey (s : Schema) (i : Nat) : Prop := s.autoKey = true ∧ i = s.primaryKey.val

theorem Schema.Sound.timeKind {s : Schema} (hs : s.Sound) {i : Nat} {f : Field}
    (time : s.IsTime i) (hf : s.fields[i]? = some f) : Descriptor.isTimeKind f.kind = true := by
  rcases time with first | last
  · obtain ⟨j, hj, rfl⟩ := Option.map_eq_some_iff.mp first
    rw [← Option.some.inj ((s.getElem?_fields j).symm.trans hf)]
    exact hs.created j hj
  · obtain ⟨j, hj, rfl⟩ := Option.map_eq_some_iff.mp last
    rw [← Option.some.inj ((s.getElem?_fields j).symm.trans hf)]
    exact hs.updated j hj

namespace Lifecycle

variable {now : Int64} {a b : Record}

/-- A stamp is the time, conformed to the kind of its field. -/
theorem stampAt_sets {o : Option (Fin a.schema.fields.length)} (h : stampAt now a o = .ok b)
    {i : Nat} (hi : o.map Fin.val = some i) {f : Field} (hf : a.schema.fields[i]? = some f) :
    ∃ w, b.values[i]? = some w ∧ (Value.int now).coerce? f.kind = some w := by
  obtain ⟨j, rfl, rfl⟩ := Option.map_eq_some_iff.mp hi
  obtain ⟨w, hw, rfl⟩ := stampAt_some_eq_ok.mp h
  obtain rfl := Option.some.inj ((a.schema.getElem?_fields j).symm.trans hf)
  exact ⟨w, by rw [a.getElem?_put, if_pos rfl], hw⟩

/-- **The hooks of a new record** set its times and leave the rest. -/
theorem stamped_preInsert (h : stamped.preInsert now a = .ok b) :
    Record.EqOff a.schema.IsTime a b ∧ ∀ (i : Nat) (f : Field), a.schema.IsTime i →
      a.schema.fields[i]? = some f →
        ∃ w, b.values[i]? = some w ∧ (Value.int now).coerce? f.kind = some w := by
  obtain ⟨b', hstamps, h⟩ := bind_eq_ok.mp h
  obtain rfl := eq_of_checked h
  obtain ⟨m, hcreated, hupdated⟩ := bind_eq_ok.mp hstamps
  obtain ⟨created, -⟩ := stampAt_eq_ok hcreated
  obtain ⟨updated, -⟩ := stampAt_eq_ok hupdated
  have same := created.schema
  refine ⟨(created.mono fun i => .inl).trans (updated.mono fun i hi => .inr ?_), ?_⟩
  · show a.schema.updated.map Fin.val = some i
    rw [← same]
    exact hi
  · intro i f time hf
    by_cases last : m.schema.updated.map Fin.val = some i
    · exact stampAt_sets hupdated last (by rw [same]; exact hf)
    · -- the second stamp is set elsewhere, so what the first one set is still there
      rw [updated.values i last]
      refine stampAt_sets hcreated ?_ hf
      rcases time with first | second
      · exact first
      · exact absurd (by rw [same]; exact second) last

end Lifecycle

namespace Service

variable {sv : Service} {now : Int64} {s : Schema} {body : Json} {r : Record}

/-- Whether the hooks of a resource set a time at an index of a new record. -/
def SetsTime (sv : Service) (s : Schema) (i : Nat) : Prop :=
  sv.lifecycleOf s = .stamped ∧ s.IsTime i

/-- What is handed to the store at an index: the time where the hooks set it, and elsewhere what the
document says. -/
structure Gives (sv : Service) (now : Int64) (s : Schema) (members : List (String × Json)) (i : Nat)
    (f : Field) (w : Value) : Prop where
  time : sv.SetsTime s i → (Value.int now).coerce? f.kind = some w
  said : ¬ sv.SetsTime s i → f.Reads members w

/-- **What is handed to the store** is what the document says and the times. -/
theorem gives_of_created (hl : (sv.lifecycleOf s).Standard) (h : sv.created now s body = .ok r) :
    ∃ members, body = .object members ∧ ∀ (i : Nat) (f : Field), s.fields[i]? = some f →
      ∃ w, r.values[i]? = some w ∧ sv.Gives now s members i f w := by
  obtain ⟨decoded, hdecode, h⟩ := bind_eq_ok.mp h
  obtain ⟨members, object, rfl, said⟩ := reads_of_decode hdecode
  refine ⟨members, object, fun i f hf => ?_⟩
  obtain ⟨v, hv, reads⟩ := said i f hf
  by_cases stamps : sv.lifecycleOf decoded.schema = .stamped
  · rw [stamps] at h
    obtain ⟨off, times⟩ := Lifecycle.stamped_preInsert h
    by_cases time : decoded.schema.IsTime i
    · obtain ⟨w, hw, stamp⟩ := times i f time hf
      exact ⟨w, hw, fun _ => stamp, fun not => absurd ⟨stamps, time⟩ not⟩
    · exact ⟨v, (off.values i time).trans hv, fun sets => absurd sets.2 time, fun _ => reads⟩
  · rw [hl.resolve_left stamps] at h
    obtain rfl := Lifecycle.eq_of_checked h
    exact ⟨v, hv, fun sets => absurd sets.1 stamps, fun _ => reads⟩

/-! ## What the store makes of it -/

/-- What a creation makes of a document at an index. Without a column it is zero. With one it is
the time where the hooks set it, and elsewhere what the document says; only a key that counts as
absent, as a time does in the first millisecond of 1970 alone, is assigned instead. -/
structure Makes (sv : Service) (now : Int64) (s : Schema) (members : List (String × Json)) (i : Nat)
    (f : Field) (v : Value) : Prop where
  zero : f.isPersisted = false → v = .zero f.kind
  time : f.isPersisted = true → sv.SetsTime s i →
    (Value.int now).coerce? f.kind = some v ∨ (now = 0 ∧ s.AssignsKey i)
  said : f.isPersisted = true → ¬ sv.SetsTime s i →
    f.Reads members v ∨ ∃ w, f.Reads members w ∧ w.isZero = true ∧ s.AssignsKey i

theorem eq_zero_of_time {k : Kind} (hk : Descriptor.isTimeKind k = true) {w : Value}
    (h : (Value.int now).coerce? k = some w) (zero : w.isZero = true) : now = 0 := by
  cases k <;> first | exact absurd hk (by decide) | skip
  case int =>
    obtain rfl := Option.some.inj h
    exact eq_of_beq zero
  case uint =>
    simp only [Value.coerce?] at h
    split at h
    · rename_i nonneg
      obtain rfl := Option.some.inj h
      have none : UInt64.ofNat now.toInt.toNat = 0 := eq_of_beq zero
      have small : now.toInt.toNat < 2 ^ 64 := by
        have := Int64.toInt_lt now
        omega
      have same := congrArg UInt64.toNat none
      rw [UInt64.toNat_ofNat_of_lt' small] at same
      refine Int64.toInt_inj.mp ?_
      show now.toInt = 0
      have gone : now.toInt.toNat = 0 := same
      omega
    · exact absurd h (by simp)

section Made

variable {members : List (String × Json)} {i : Nat} {f : Field} {w : Value}

theorem makes_zero (column : f.isPersisted = false) :
    sv.Makes now s members i f (.zero f.kind) := by
  refine ⟨fun _ => rfl, fun persisted => ?_, fun persisted => ?_⟩
  all_goals
    rw [column] at persisted
    exact absurd persisted (by simp)

theorem makes_given (column : f.isPersisted = true) (gives : sv.Gives now s members i f w) :
    sv.Makes now s members i f w := by
  refine ⟨fun none => ?_, fun _ sets => .inl (gives.time sets),
    fun _ sets => .inl (gives.said sets)⟩
  rw [column] at none
  exact absurd none (by simp)

/-- Any key may stand in place of one that counts as absent. -/
theorem makes_assigned (hs : s.Sound) (hf : s.fields[i]? = some f) (column : f.isPersisted = true)
    (gives : sv.Gives now s members i f w) (zero : w.isZero = true) (assigns : s.AssignsKey i)
    (key : Value) : sv.Makes now s members i f key := by
  refine ⟨fun none => ?_, fun _ sets => .inr ⟨?_, assigns⟩,
    fun _ sets => .inr ⟨w, gives.said sets, zero, assigns⟩⟩
  · rw [column] at none
    exact absurd none (by simp)
  · exact eq_zero_of_time (hs.timeKind sets.2 hf) (gives.time sets) zero

/-- **What the store makes of a record** that is handed to it. -/
theorem makes_of_insert {stored : Record} {st st' : Store} (hs : r.schema.Sound)
    (h : Store.insert r st = (.ok stored, st')) (hf : r.schema.fields[i]? = some f)
    (hw : r.values[i]? = some w) (gives : sv.Gives now r.schema members i f w) :
    ∃ v, stored.values[i]? = some v ∧ sv.Makes now r.schema members i f v := by
  cases column : f.isPersisted with
  | false =>
    refine ⟨_, ?_, makes_zero column⟩
    rcases Store.insert_stores h with ⟨-, rfl⟩ | ⟨-, key, rfl⟩
    · exact r.settled_stored i f hf column
    · exact (r.put _ key).settled_stored i f hf column
  | true =>
    rcases Store.insert_stores h with ⟨-, rfl⟩ | ⟨wants, key, rfl⟩
    · rw [r.getElem?_stored hf, if_pos column]
      exact ⟨w, hw, makes_given column gives⟩
    · obtain ⟨auto, zero⟩ : r.schema.autoKey = true ∧ r.key.isZero = true := by
        simpa [Table.wantsKey] using wants
      rw [(r.put _ key).getElem?_stored hf, if_pos column, r.getElem?_put]
      by_cases assigned : r.schema.primaryKey.val = i
      · subst assigned
        obtain rfl : w = r.key := Option.some.inj (hw.symm.trans r.getElem?_key)
        exact ⟨key, if_pos rfl, makes_assigned hs hf column gives zero ⟨auto, rfl⟩ key⟩
      · rw [if_neg assigned]
        exact ⟨w, hw, makes_given column gives⟩

end Made

/-! ## Reading it back -/

theorem schema_unique {resource : String} {op op' : Operation} {s' : Schema}
    (h : sv.schema resource op = .ok s) (h' : sv.schema resource op' = .ok s') : s = s' := by
  unfold schema at h h'
  split at h
  · exact absurd h (by simp)
  · rename_i found
    rw [found] at h'
    simp only at h'
    split at h
    · split at h'
      · exact (Except.ok.inj h).symm.trans (Except.ok.inj h')
      · exact absurd h' (by simp)
    · exact absurd h (by simp)

/-- A row that a key finds is read. -/
theorem read_eq_ok {resource : String} {id : Value} {st : Store}
    (hread : sv.schema resource .read = .ok s)
    (found : (Store.find s id st).1 = .ok (some r)) : sv.read resource id st = (.ok r, st) := by
  unfold read
  rw [Action.liftExcept_bind_apply, hread]
  exact fetch_eq_ok.mpr ⟨Except.ok.inj found, rfl⟩

end Service

namespace Http.Server

variable {sv : Service} {now : Int64} {s : Schema} {c : Call} {r : Record} {st st' : Store}

theorem create_run {body : Json} (hschema : sv.schema c.resource .create = .ok s)
    (hbody : parseBody s c.body = .ok body)
    (h : sv.create now c.resource body st = (.ok r, st')) :
    (create sv now).run c st = (.ok (success 201 r.toJson), st') := by
  unfold create
  dsimp only
  rw [Action.liftExcept_bind_apply, hschema]
  dsimp only
  rw [Action.liftExcept_bind_apply, hbody]
  show ((fun r => success 201 r.toJson) <$> sv.create now c.resource body : Action Response) st = _
  rw [Action.map_apply, h]
  rfl

theorem read_run_eq_ok {id : Value} (hschema : sv.schema c.resource .read = .ok s)
    (hid : parseId s c.id = .ok id) (h : sv.read c.resource id st = (.ok r, st')) :
    (read sv).run c st = (.ok (success 200 r.toJson), st') := by
  unfold read
  dsimp only
  rw [Action.liftExcept_bind_apply, hschema]
  dsimp only
  rw [Action.liftExcept_bind_apply, hid]
  show ((fun r => success 200 r.toJson) <$> sv.read c.resource id : Action Response) st = _
  rw [Action.map_apply, h]
  rfl

end Http.Server

namespace Service

/-- **What is created is what is read.** In every state that requests reach, a creation that
succeeds, for a resource that is alone on its collection, takes a document with members and answers
with a record of the resource. At every index the record holds what a creation makes of the
document. Its key is read from a path as it is shown, and finds the record in the store that the
creation left; the answer to a request that reads it has the document that the answer to the
creation had. -/
theorem create_then_read {d : Descriptor} {sv : Service} (hreg : d.resolve = .ok sv.registry)
    (hstd : sv.Standard) {t : Traffic} (ht : Traffic.Reachable sv t) {resource : String}
    {s : Schema} (hread : sv.schema resource .read = .ok s)
    (alone : ∀ s' ∈ sv.registry.schemas, s'.collection = s.collection → s' = s) {now : Int64}
    {body : Json} {r : Record} {st' : Store}
    (h : sv.create now resource body t.store = (.ok r, st')) :
    r.schema = s ∧
    (∃ members, body = .object members ∧ ∀ (i : Nat) (f : Field), s.fields[i]? = some f →
      ∃ v, r.values[i]? = some v ∧ sv.Makes now s members i f v) ∧
    Http.Server.parseId s r.key.display = .ok r.key ∧
    sv.read resource r.key st' = (.ok r, st') ∧
    (∀ c : Http.Call, c.resource = resource → Http.Server.parseBody s c.body = .ok body →
      (Http.Server.create sv now).run c t.store =
        (.ok (Http.Server.success 201 r.toJson), st')) ∧
    ∀ c : Http.Call, c.resource = resource → c.id = r.key.display →
      (Http.Server.read sv).run c st' = (.ok (Http.Server.success 200 r.toJson), st') := by
  have sound := Registry.sound_of_resolve hreg
  obtain ⟨⟨failure, failed⟩, -⟩ | ⟨s', g, stored, hcreate, hg, answer, hinsert⟩ := create_cases h
  · exact absurd failed (by simp)
  obtain rfl := Except.ok.inj answer
  obtain rfl := schema_unique hcreate hread
  obtain ⟨hs, -, -⟩ := schema_eq_ok hcreate
  obtain ⟨rfl, typed⟩ := created_spec (hstd _ hs) hg
  -- the resource is alone on its collection, so the key of the new row finds that row
  have lone : t.store.Alone g.schema := Store.alone_of_run (fun s hs => ⟨d, _, hreg, hs⟩)
    (Traffic.reachable_store sound hstd ht) hs alone
  obtain ⟨-, puts⟩ := Store.insert_puts lone typed hinsert
  obtain ⟨_, happend, -⟩ := Store.insert_eq_ok hinsert
  obtain ⟨schema, typed', -⟩ := Table.insert_spec lone.sound typed happend
  have shown : Http.Server.parseId g.schema r.key.display = .ok r.key :=
    Http.Server.parseId_display lone.sound.keyKind (schema ▸ typed'.key)
  have found := read_eq_ok hread puts.found
  refine ⟨schema, ?_, shown, found, ?_, ?_⟩
  · obtain ⟨members, object, gives⟩ := gives_of_created (hstd _ hs) hg
    refine ⟨members, object, fun i f hf => ?_⟩
    obtain ⟨w, hw, given⟩ := gives i f hf
    exact makes_of_insert lone.sound hinsert hf hw given
  · rintro c rfl hbody
    exact Http.Server.create_run hcreate hbody h
  · rintro c rfl hid
    exact Http.Server.read_run_eq_ok hread (hid ▸ shown) found

theorem create_then_read_firstNote :
    notes.resolve = .ok noteService.registry ∧ noteService.Standard ∧
    noteService.create 10 "note" (titled "a") Store.empty = (.ok firstNote, oneNote firstNote) ∧
    Http.Server.parseId note "1" = .ok (.int 1) ∧
    noteService.read "note" (.int 1) (oneNote firstNote) = (.ok firstNote, oneNote firstNote) := by
  have only : ∀ s' ∈ noteService.registry.schemas, s'.collection = note.collection → s' = note :=
    fun s' hs' _ => List.mem_singleton.mp hs'
  have created : noteService.create 10 "note" (titled "a") Store.empty =
      (.ok firstNote, oneNote firstNote) := rfl
  obtain ⟨-, -, shown, found, -⟩ :=
    create_then_read notes_resolve standard_notes .refl rfl only created
  exact ⟨notes_resolve, standard_notes, created, shown, found⟩

end Service

end Registrar
