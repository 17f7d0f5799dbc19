import Registrar.Proofs.Requests

/-!
# What is stored is valid

A record is checked before it is handed to a store, and the store changes it once more: it may
assign the key, and it blanks what is not persisted. Nothing else of what was checked is changed, so
every other value of a row passes the rules of its field.

* `Record.check_eq_ok_iff`: the check of a record succeeds iff every value passes its rules.
* `Table.insert_eqOff`: an insertion changes the key of what it is given, and blanks.
* `Traffic.kept_of_run`: in every reachable state the persisted values of a row pass, the key apart.
-/

namespace Registrar

/-! ## Rules that pass -/

/-- A value passes every rule of a field. -/
def Field.Passes (f : Field) (v : Value) : Prop := ∀ rule ∈ f.rules, rule.check v = .pass

theorem Candidate.failsAny_eq_ok_false {v : Value} : ∀ {rules : List Rule},
    failsAny v rules = .ok false ↔ ∀ rule ∈ rules, rule.check v = .pass
  | [] => by simp [failsAny]
  | rule :: rest => by
    rw [List.forall_mem_cons, failsAny]
    cases rule.check v with
    | pass =>
      rw [failsAny_eq_ok_false]
      simp
    | fail name => simp [map_eq_ok]
    | fatal name => simp

theorem Entries.put_ne_nil {α : Type} (m : Entries α) (k : String) (a : α) : m.put k a ≠ [] := by
  cases m with
  | nil => simp [put]
  | cons e rest =>
    unfold put
    split
    · simp
    · split <;> simp

theorem Verdict.isValid_fail (verdict : Verdict) (field : String) :
    (verdict.fail field).isValid = false := by
  unfold isValid fail
  rw [List.isEmpty_eq_false_iff]
  exact Entries.put_ne_nil _ _ _

/-- Values that all pass leave a verdict as it is. -/
theorem foldlM_judge_of_pass : ∀ {candidates : List Candidate} (verdict : Verdict),
    (∀ c ∈ candidates, Candidate.failsAny c.value c.rules = .ok false) →
      candidates.foldlM Candidate.judge verdict = .ok verdict
  | [], _, _ => rfl
  | c :: rest, verdict, h => by
    obtain ⟨hc, hrest⟩ := List.forall_mem_cons.mp h
    have judged : c.judge verdict = .ok verdict := by
      unfold Candidate.judge
      rw [hc]
    rw [List.foldlM_cons, judged]
    exact foldlM_judge_of_pass verdict hrest

/-- A verdict without failures comes of values that all pass. -/
theorem pass_of_foldlM_judge : ∀ {candidates : List Candidate} {verdict verdict' : Verdict},
    candidates.foldlM Candidate.judge verdict = .ok verdict' → verdict'.isValid = true →
      verdict.isValid = true ∧
        ∀ c ∈ candidates, Candidate.failsAny c.value c.rules = .ok false
  | [], verdict, verdict', h, hvalid => by
    obtain rfl := pure_eq_ok.mp h
    exact ⟨hvalid, fun c hc => absurd hc List.not_mem_nil⟩
  | c :: rest, verdict, verdict', h, hvalid => by
    rw [List.foldlM_cons] at h
    obtain ⟨next, hnext, h⟩ := bind_eq_ok.mp h
    obtain ⟨kept, pass⟩ := pass_of_foldlM_judge h hvalid
    unfold Candidate.judge at hnext
    split at hnext
    · -- a failure stays in the verdict
      obtain rfl := Except.ok.inj hnext
      rw [Verdict.isValid_fail] at kept
      exact absurd kept Bool.false_ne_true
    · rename_i hc
      obtain rfl := Except.ok.inj hnext
      exact ⟨kept, List.forall_mem_cons.mpr ⟨hc, pass⟩⟩
    · exact absurd hnext (by simp)

/-! ## Records that are valid -/

namespace Record

/-- The value at an index passes the rules of its field. -/
def ValidAt (r : Record) (i : Nat) : Prop :=
  ∀ (f : Field) (v : Value), r.schema.fields[i]? = some f → r.values[i]? = some v → f.Passes v

/-- Every value passes the rules of its field. -/
def Valid (r : Record) : Prop := ∀ i, r.ValidAt i

variable {r r' : Record} {i : Nat}

theorem validAt_iff (i : Fin r.schema.fields.length) :
    r.ValidAt i ↔ (r.schema.fields.get i).Passes (r.value i) := by
  constructor
  · exact fun h => h _ _ (r.schema.getElem?_fields i) (r.getElem?_values i)
  · intro h f v hf hv
    rw [← Option.some.inj ((r.schema.getElem?_fields i).symm.trans hf),
      ← Option.some.inj ((r.getElem?_values i).symm.trans hv)]
    exact h

theorem valid_iff : r.Valid ↔ ∀ i : Fin r.schema.fields.length,
    (r.schema.fields.get i).Passes (r.value i) := by
  constructor
  · exact fun h i => (validAt_iff i).mp (h i)
  · intro h i f v hf hv
    have hi : i < r.schema.fields.length := (List.getElem?_eq_some_iff.mp hf).1
    exact (validAt_iff ⟨i, hi⟩).mpr (h ⟨i, hi⟩) f v hf hv

theorem valid_iff_candidates : r.Valid ↔
    ∀ c ∈ r.candidates, Candidate.failsAny c.value c.rules = .ok false := by
  rw [valid_iff]
  unfold candidates cells Schema.indexed
  rw [List.map_map, List.map_map, List.forall_mem_map]
  exact ⟨fun h i _ => Candidate.failsAny_eq_ok_false.mpr (h i),
    fun h i => Candidate.failsAny_eq_ok_false.mp (h i (List.mem_finRange i))⟩

/-- **The check of a record succeeds** iff every value passes the rules of its field. -/
theorem check_eq_ok_iff : r.check = .ok () ↔ r.Valid := by
  rw [valid_iff_candidates]
  unfold check validate Registrar.validate
  constructor
  · intro h
    split at h
    · exact absurd h (by simp)
    · rename_i verdict judged
      split at h
      · rename_i hvalid
        exact (pass_of_foldlM_judge judged hvalid).2
      · exact absurd h (by simp)
  · intro h
    rw [foldlM_judge_of_pass Verdict.empty h]
    rfl

/-- The same value in the same field passes again. -/
theorem ValidAt.congr (schema : r'.schema = r.schema) (same : r'.values[i]? = r.values[i]?)
    (hr : r.ValidAt i) : r'.ValidAt i := by
  intro f v hf hv
  rw [schema] at hf
  rw [same] at hv
  exact hr f v hf hv

/-- What a step leaves as it was passes as it did. -/
theorem EqOff.validAt {p : Nat → Prop} (h : EqOff p r r') (hi : ¬ p i) (hr : r.ValidAt i) :
    r'.ValidAt i :=
  hr.congr h.schema (h.values i hi)

/-- Storing leaves what is persisted as it was. -/
theorem ValidAt.stored (hr : r.ValidAt i)
    (hp : ∀ f, r.schema.fields[i]? = some f → f.isPersisted = true) : r.stored.ValidAt i := by
  intro f v hf hv
  rw [r.getElem?_stored hf, if_pos (hp f hf)] at hv
  exact hr f v hf hv

end Record

/-! ## What is handed to the store -/

theorem Lifecycle.checked_eq_ok_iff {r r' : Record} :
    Lifecycle.checked r = .ok r' ↔ r' = r ∧ r.Valid := by
  rw [← Record.check_eq_ok_iff]
  unfold checked
  rw [map_eq_ok]
  exact ⟨fun ⟨(), hr, same⟩ => ⟨same.symm, hr⟩, fun ⟨same, hr⟩ => ⟨(), hr, same.symm⟩⟩

namespace Lifecycle.Standard

variable {l : Lifecycle} {now : Int64} {r r' : Record}

/-- A standard hook ends in a check. -/
theorem valid_of_preInsert (hl : l.Standard) (h : l.preInsert now r = .ok r') : r'.Valid := by
  rcases hl with rfl | rfl
  · obtain ⟨stamped, -, h⟩ := bind_eq_ok.mp h
    obtain ⟨rfl, valid⟩ := checked_eq_ok_iff.mp h
    exact valid
  · obtain ⟨rfl, valid⟩ := checked_eq_ok_iff.mp h
    exact valid

theorem valid_of_preUpdate (hl : l.Standard) (h : l.preUpdate now r = .ok r') : r'.Valid := by
  rcases hl with rfl | rfl
  · obtain ⟨stamped, -, h⟩ := bind_eq_ok.mp h
    obtain ⟨rfl, valid⟩ := checked_eq_ok_iff.mp h
    exact valid
  · obtain ⟨rfl, valid⟩ := checked_eq_ok_iff.mp h
    exact valid

end Lifecycle.Standard

namespace Service

variable {sv : Service} {now : Int64} {s : Schema} {body : Json} {r : Record}

theorem valid_of_created (hl : (sv.lifecycleOf s).Standard) (h : sv.created now s body = .ok r) :
    r.Valid := by
  obtain ⟨decoded, -, h⟩ := bind_eq_ok.mp h
  exact hl.valid_of_preInsert h

theorem valid_of_work {change : Change} {current : Record} (hl : (sv.lifecycleOf s).Standard)
    (h : change.work sv now s current = .ok r) : r.Valid := by
  unfold Change.work at h
  split at h
  · obtain ⟨patch, merged, -, -, h⟩ := revised_eq_ok h
    exact hl.valid_of_preUpdate h
  · unfold deleted at h
    split at h
    · exact absurd h (by simp)
    · exact hl.valid_of_preUpdate h

end Service

/-! ## What the store makes of it -/

namespace Table

variable {t t' : Table} {r stored : Record}

/-- An insertion may assign the key, and changes nothing else but what is not persisted. -/
theorem insert_eqOff (h : t.insert r = .ok (stored, t')) :
    ∃ keyed, Record.EqOff (· = r.schema.primaryKey.val) r keyed ∧ stored = keyed.stored ∧
      t'.rows = t.rows ++ [stored] := by
  rcases insert_cases h with ⟨-, -, stores, rfl⟩ | ⟨-, n, w, -, -, stores, rfl⟩
  · exact ⟨r, .refl _ r, stores, rfl⟩
  · exact ⟨r.put r.schema.primaryKey w, r.eqOff_put _ w, stores, rfl⟩

end Table

/-- Every value of a row that is persisted and is not the key passes the rules of its field. -/
def Record.Kept (row : Record) : Prop :=
  ∀ (i : Nat) (f : Field), row.schema.fields[i]? = some f → f.isPersisted = true →
    i ≠ row.schema.primaryKey → row.ValidAt i

theorem Record.Valid.kept_stored {r : Record} (h : r.Valid) : r.stored.Kept := by
  intro i f hf hp _
  refine (h i).stored fun g hg => ?_
  rw [← Option.some.inj (hf.symm.trans hg)]
  exact hp

theorem Table.kept_of_insert {t t' : Table} {r stored : Record} (hr : r.Valid)
    (h : t.insert r = .ok (stored, t')) : stored.Kept := by
  obtain ⟨keyed, off, rfl, -⟩ := insert_eqOff h
  intro i f hf hp hk
  have index : keyed.schema.primaryKey.val = r.schema.primaryKey.val := by rw [off.schema]
  refine (off.validAt (fun same => hk (same.trans index.symm)) (hr i)).stored fun g hg => ?_
  rw [← Option.some.inj (hf.symm.trans hg)]
  exact hp

namespace Store

variable {st st' : Store} {r stored : Record} {P : Record → Prop}

/-- After an insertion the rows are those that were there and the one that is given back. -/
theorem mem_rows_of_insert (h : Store.insert r st = (.ok stored, st')) {c : String} {row : Record}
    (hrow : row ∈ (st'.table c).rows) : row ∈ (st.table c).rows ∨ row = stored := by
  obtain ⟨t, hinsert, tables⟩ := insert_eq_ok h
  obtain ⟨-, -, -, rows⟩ := Table.insert_eqOff hinsert
  rw [tables] at hrow
  split at hrow
  · rename_i same
    rw [rows, List.mem_append, List.mem_singleton] at hrow
    exact same ▸ hrow
  · exact .inl hrow

theorem mem_rows_of_update (h : Store.update r st = (.ok stored, st')) {c : String} {row : Record}
    (hrow : row ∈ (st'.table c).rows) : row ∈ (st.table c).rows ∨ row = r.stored := by
  obtain ⟨t, hupdate, tables⟩ := update_eq_ok h
  obtain ⟨rfl, i, old, -, rows⟩ := Table.update_spec hupdate
  rw [tables] at hrow
  split at hrow
  · rename_i same
    rw [rows] at hrow
    exact same ▸ List.mem_or_eq_of_mem_set hrow
  · exact .inl hrow

end Store

/-! ## Every state -/

namespace Traffic

variable {sv : Service} {t t' : Traffic}

/-- Requests under way are for resources of the registry. -/
theorem pending_of_run (h : Reachable sv t) : ∀ p ∈ t.pending, p.schema ∈ sv.registry.schemas := by
  induction h with
  | refl => exact fun p hp => absurd hp List.not_mem_nil
  | tail _ step ih =>
    intro p hp
    rcases pending_step step hp with before | ⟨resource, id, hs, -⟩
    · exact ih p before
    · exact (Service.schema_eq_ok hs).1

/-- **What rows there are after a step**: those that were there, and the one that a creation or a
write has stored. -/
theorem rows_step (h : Step sv t t') {c : String} {row : Record}
    (hrow : row ∈ (t'.store.table c).rows) :
    row ∈ (t.store.table c).rows ∨
    (∃ s now body r table table', s ∈ sv.registry.schemas ∧ sv.created now s body = .ok r ∧
      Table.insert table r = .ok (row, table')) ∨
    ∃ p ∈ t.pending, ∃ now r, p.change.work sv now p.schema p.current = .ok r ∧ row = r.stored := by
  cases h with
  | create t now resource body =>
    rcases Service.create_cases (Prod.eta _).symm with ⟨-, unchanged⟩ | ⟨s, r, stored, hs, hr, -, h⟩
    · rw [unchanged] at hrow
      exact .inl hrow
    · rcases Store.mem_rows_of_insert h hrow with hrow | rfl
      · exact .inl hrow
      · obtain ⟨table, hinsert, -⟩ := Store.insert_eq_ok h
        exact .inr (.inl ⟨s, now, body, r, _, table, (Service.schema_eq_ok hs).1, hr, hinsert⟩)
  | find t change hs hfind =>
    rw [(Service.fetch_eq_ok.mp hfind).2] at hrow
    exact .inl hrow
  | write st before after p now =>
    rcases Pending.write_cases (Prod.eta _).symm with ⟨-, unchanged⟩ | ⟨r, stored, hwork, -, h⟩
    · rw [unchanged] at hrow
      exact .inl hrow
    · rcases Store.mem_rows_of_update h hrow with hrow | rfl
      · exact .inl hrow
      · have here : p ∈ before ++ p :: after := List.mem_append_right _ List.mem_cons_self
        exact .inr (.inr ⟨p, here, now, r, hwork, rfl⟩)

/-- One step leaves rows valid where they are kept as they were checked. -/
theorem kept_step (hstd : sv.Standard) (pending : ∀ p ∈ t.pending, p.schema ∈ sv.registry.schemas)
    (rows : ∀ c, ∀ row ∈ (t.store.table c).rows, row.Kept) (h : Step sv t t') :
    ∀ c, ∀ row ∈ (t'.store.table c).rows, row.Kept := by
  intro c row hrow
  rcases rows_step h hrow with
    before | ⟨s, now, body, r, _, _, hs, hr, hinsert⟩ | ⟨p, hp, now, r, hwork, rfl⟩
  · exact rows c row before
  · exact Table.kept_of_insert (Service.valid_of_created (hstd s hs) hr) hinsert
  · exact (Service.valid_of_work (hstd _ (pending p hp)) hwork).kept_stored

/-- **Rows are kept as they were checked.** -/
theorem kept_of_run (hstd : sv.Standard) (h : Reachable sv t) :
    ∀ c, ∀ row ∈ (t.store.table c).rows, row.Kept := by
  induction h with
  | refl => exact fun c row hrow => absurd hrow List.not_mem_nil
  | tail run step ih => exact kept_step hstd (pending_of_run run) ih step

/-- **No invalid value is ever persisted.** Whatever requests came, and however their steps fell
between one another, every rule of a persisted field passes the value that a row holds there, the
key of the row apart. -/
theorem rules_pass_of_run (hstd : sv.Standard) (ht : Reachable sv t) {c : String} {row : Record}
    (hrow : row ∈ (t.store.table c).rows) {i : Nat} {f : Field} {v : Value}
    (hf : row.schema.fields[i]? = some f) (hv : row.values[i]? = some v)
    (hp : f.isPersisted = true) (hk : i ≠ row.schema.primaryKey) :
    ∀ rule ∈ f.rules, rule.check v = .pass :=
  kept_of_run hstd ht c row hrow i f hf hp hk f v hf hv

/-! ### A guest with a name -/

/-- The descriptor of guests: each has a name, of at most three characters. -/
def guests : Descriptor where
  resources := [{
    name := "guest"
    collection := none
    primaryKey := "id"
    autoKey := true
    created := none
    updated := none
    softDelete := none
    operations := [.create, .update]
    fields := [noteField "id" .int none none,
      { noteField "name" .string none (some "true") with
        validate := some "nonzero | maxlen(3)" }] }]

/-- The schema of guests. -/
def guest : Schema where
  name := "guest"
  collection := "guest"
  fields := [noteColumn "id" .int (some "id") none,
    { noteColumn "name" .string (some "name") (some true) with
      tag := "nonzero | maxlen(3)"
      rules := [.test .nonzero, .test (.maxLength 3)] }]
  primaryKey := 0
  autoKey := true
  created := none
  updated := none
  softDelete := none
  operations := [.create, .update]

/-- The service of guests. -/
def guestService : Service := ⟨⟨[guest]⟩, .plain, []⟩

/-- The guest that is created first. -/
def firstGuest : Record := ⟨guest, [.int 1, .string "Bo"], rfl⟩

theorem rules_pass_firstGuest :
    guests.resolve = .ok guestService.registry ∧ guestService.Standard ∧
    Reachable guestService ⟨⟨[("guest", ⟨[firstGuest], 1⟩)]⟩, []⟩ ∧
    ∀ rule ∈ [Rule.test .nonzero, .test (.maxLength 3)], rule.check (.string "Bo") = .pass := by
  have standard : guestService.Standard := fun _ _ => .inr rfl
  have run : Reachable guestService ⟨⟨[("guest", ⟨[firstGuest], 1⟩)]⟩, []⟩ :=
    .single (.create .start 10 "guest" (.object [("name", .string "Bo")]))
  refine ⟨by cbv, standard, run, ?_⟩
  exact rules_pass_of_run standard run (c := "guest") (List.mem_singleton_self firstGuest)
    (i := 1) rfl rfl rfl (by decide)

end Traffic

end Registrar
