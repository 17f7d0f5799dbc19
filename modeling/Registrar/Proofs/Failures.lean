import Registrar.Proofs.Requests
import Registrar.Proofs.Selection

/-!
# What a step can fail with

A request fails as it should if what it fails with is the sender's, or comes of a rule that stops
the validation, or of a table without a free key. The steps that requests are made of fail so, each
where its own condition holds: a hook at a time that is no earlier than 1970, a merge of records of
one layout, a selection among rows that have a value at every index it looks at.

* `Orderly`: a computation that fails as it should, if it fails.
* `Lifecycle.Standard.orderly_preUpdate`: the hooks are orderly, since stamps are of a time's kind.
* `Table.orderly_insert`: an insertion is orderly, since assigned keys are of the key's kind.
* `Table.orderly_select`: a selection is orderly where rows are no shorter than its schema.
-/

namespace Registrar

/-! ## Failing as one should -/

/-- A failure that is the sender's, or of a rule that stops the validation, or of a table that is
full. -/
def Failure.Expected (full : Prop) (failure : Failure) : Prop :=
  failure.status < 500 ∨ (∃ fault, failure = .fatal fault) ∨
    (failure = .crash .keysExhausted ∧ full)

/-- A computation that fails with what is expected, if it fails. -/
def Orderly {α : Type} (full : Prop) (x : Except Failure α) : Prop :=
  ∀ failure, x = .error failure → failure.Expected full

section Orderly

variable {α β : Type} {full : Prop} {x : Except Failure α} {f : α → Except Failure β}

theorem orderly_ok (a : α) : Orderly full (.ok a) := fails_ok a

theorem orderly_error {failure : Failure} (h : failure.Expected full) :
    Orderly full (.error failure : Except Failure α) := fails_error h

/-- A failure of the sender's is expected. -/
theorem orderly_client {failure : Failure} (h : decide (failure.status < 500) = true) :
    Orderly full (.error failure : Except Failure α) := orderly_error (.inl (of_decide_eq_true h))

theorem Orderly.bind (hx : Orderly full x) (hf : ∀ a, x = .ok a → Orderly full (f a)) :
    Orderly full (x >>= f) := Fails.bind hx hf

theorem Orderly.map (hx : Orderly full x) (g : α → β) : Orderly full (x.map g) := Fails.map hx g

theorem orderly_mapM {xs : List α} (h : ∀ a ∈ xs, Orderly full (f a)) : Orderly full (xs.mapM f) :=
  fails_mapM h

end Orderly

/-! ## Hooks -/

section Hooks

variable {full : Prop} {now : Int64} {r : Record}

theorem Record.orderly_check (r : Record) : Orderly full r.check := by
  unfold check
  split
  · exact orderly_error (.inr (.inl ⟨_, rfl⟩))
  · split
    · exact orderly_ok _
    · exact orderly_client rfl

namespace Lifecycle

theorem orderly_checked (r : Record) : Orderly full (checked r) := r.orderly_check.map _

/-- A time that is no earlier than 1970 fits every field for a time. -/
theorem exists_coerce?_time {k : Kind} (hk : Descriptor.isTimeKind k = true) (hnow : 0 ≤ now) :
    ∃ w, (Value.int now).coerce? k = some w := by
  have nonneg : 0 ≤ now.toInt := by simpa using Int64.le_iff_toInt_le.mp hnow
  cases k <;> simp_all [Descriptor.isTimeKind, Value.coerce?]

theorem exists_stampAt_eq_ok {i : Option (Fin r.schema.fields.length)} (hnow : 0 ≤ now)
    (hi : ∀ j, i = some j → Descriptor.isTimeKind (r.schema.fields.get j).kind = true) :
    ∃ r', stampAt now r i = .ok r' := by
  cases i with
  | none => exact ⟨r, rfl⟩
  | some j =>
    obtain ⟨w, hw⟩ := exists_coerce?_time (hi j rfl) hnow
    exact ⟨_, stampAt_some_eq_ok.mpr ⟨w, hw, rfl⟩⟩

namespace Standard

variable {l : Lifecycle}

/-- **The hooks are orderly**, before an insertion and before a change. -/
theorem orderly_preInsert (hl : l.Standard) (hs : r.schema.Sound) (hnow : 0 ≤ now) :
    Orderly full (l.preInsert now r) := by
  rcases hl with rfl | rfl
  · obtain ⟨a, ha⟩ := exists_stampAt_eq_ok hnow hs.created
    -- the second stamp is set on what the first one left
    have same : a.schema = r.schema := (stampAt_eq_ok ha).1.schema
    obtain ⟨b, hb⟩ := exists_stampAt_eq_ok (r := a) (i := a.schema.updated) hnow
      (by rw [same]; exact hs.updated)
    have stamps : (stampCreated now r >>= stampUpdated now) = .ok b := bind_eq_ok.mpr ⟨a, ha, hb⟩
    show Orderly full ((stampCreated now r >>= stampUpdated now) >>= checked)
    rw [stamps]
    exact orderly_checked b
  · exact orderly_checked r

theorem orderly_preUpdate (hl : l.Standard) (hs : r.schema.Sound) (hnow : 0 ≤ now) :
    Orderly full (l.preUpdate now r) := by
  rcases hl with rfl | rfl
  · obtain ⟨a, ha⟩ := exists_stampAt_eq_ok hnow hs.updated
    have stamp : stampUpdated now r = .ok a := ha
    show Orderly full (stampUpdated now r >>= checked)
    rw [stamp]
    exact orderly_checked a
  · exact orderly_checked r

end Standard

end Lifecycle

end Hooks

/-! ## What the service works out -/

namespace Service

variable {sv : Service} {full : Prop} {now : Int64} {s : Schema} {body : Json} {current : Record}

theorem orderly_schema (sv : Service) (resource : String) (op : Operation) :
    Orderly full (sv.schema resource op) := by
  unfold schema
  split
  · exact orderly_client rfl
  · split
    · exact orderly_ok _
    · exact orderly_client rfl

theorem orderly_decode (s : Schema) (body : Json) : Orderly full (decode s body) := by
  unfold decode
  split
  · exact orderly_ok _
  · exact orderly_client rfl

theorem orderly_created (hs : s.Sound) (hl : (sv.lifecycleOf s).Standard) (hnow : 0 ≤ now) :
    Orderly full (sv.created now s body) := by
  refine (orderly_decode s body).bind fun decoded hdecode => ?_
  exact hl.orderly_preInsert (by rw [(decode_eq_ok hdecode).1]; exact hs) hnow

/-- A change is orderly where the record has the layout of the document. -/
theorem orderly_revised (hl : (sv.lifecycleOf s).Standard) (hc : current.schema.Sound)
    (layout : s.sameLayout current.schema = true) (hnow : 0 ≤ now) :
    Orderly full (sv.revised now s body current) := by
  refine (orderly_decode s body).bind fun patch hdecode => ?_
  rw [← (decode_eq_ok hdecode).1] at layout
  unfold MergeRule.apply
  rw [if_pos layout]
  exact hl.orderly_preUpdate hc hnow

/-- A deletion is orderly where the record can be flagged. -/
theorem orderly_deleted (hl : (sv.lifecycleOf s).Standard) (hc : current.schema.Sound)
    (flag : current.schema.softDelete.isSome = true) (hnow : 0 ≤ now) :
    Orderly full (sv.deleted now s current) := by
  obtain ⟨i, hi⟩ := Option.isSome_iff_exists.mp flag
  unfold deleted
  rw [Record.flagged?_of_softDelete hi]
  exact hl.orderly_preUpdate hc hnow

end Service

/-! ## Tables -/

namespace Table

variable {full : Prop} {t : Table} {r : Record}

/-- Every number above the counter is the key of a row. -/
def Full (t : Table) (k : Kind) : Prop :=
  ∀ n, t.counter < n → n ≤ Decimal.maxInt64 → t.holds (assigned k n) = true

theorem holds_of_freeFrom?_eq_none {k : Kind} : ∀ {span n : Nat}, t.freeFrom? k span n = none →
    ∀ m, n < m → m ≤ n + span → t.holds (assigned k m) = true
  | 0, n, _, m, above, within => by omega
  | span + 1, n, h, m, above, within => by
    unfold freeFrom? at h
    split at h
    · rename_i held
      -- the next number is taken, and so are the ones after it
      by_cases next : m = n + 1
      · rw [next]
        exact held
      · exact holds_of_freeFrom?_eq_none h m (by omega) (by omega)
    · exact absurd h (by simp)

theorem full_of_nextNumber?_eq_none {k : Kind} (h : t.nextNumber? k = none) : t.Full k :=
  fun m above within => holds_of_freeFrom?_eq_none h m above (by omega)

/-- **An insertion is orderly**: what is assigned is a key. -/
theorem orderly_insert (hs : r.schema.Sound) :
    Orderly (t.Full r.schema.keyField.kind) (t.insert r) := by
  cases wants : wantsKey r with
  | true =>
    rcases t.insert_of_wantsKey hs wants with ⟨none, failed⟩ | ⟨n, w, -, -, ok⟩
    · rw [failed]
      exact orderly_error (.inr (.inr ⟨rfl, full_of_nextNumber?_eq_none none⟩))
    · rw [ok]
      exact orderly_ok _
  | false =>
    rw [insert_of_not_wantsKey wants]
    split
    · exact orderly_client rfl
    · exact orderly_ok _

theorem orderly_update : Orderly full (t.update r) := by
  unfold update
  split
  · exact orderly_ok _
  · exact orderly_client rfl

end Table

/-! ## Selections -/

/-- What a request is refused with when it is objected to. -/
def Failure.IsObjection (failure : Failure) : Prop := ∃ why, failure = .badRequest why

theorem Failure.IsObjection.expected {full : Prop} {failure : Failure} (h : failure.IsObjection) :
    failure.Expected full := by
  obtain ⟨why, rfl⟩ := h
  exact .inl (show 400 < 500 by decide)

theorem Field.fails_literal (f : Field) (text : String) :
    Fails Failure.IsObjection (f.literal text) := by
  unfold literal
  split
  · exact fails_ok _
  · exact fails_error ⟨_, rfl⟩

namespace Filter

variable {full : Prop} {s : Schema} {c : Condition} {f : Filter} {filters : List Filter}

/-- A condition on a field of the schema can only be objected to, for a literal. -/
theorem fails_ofCondition (named : (s.index? c.field).isSome = true) :
    Fails Failure.IsObjection (ofCondition s c) := by
  obtain ⟨i, hi⟩ := Option.isSome_iff_exists.mp named
  unfold ofCondition
  rw [hi]
  exact (fails_mapM fun text _ => Field.fails_literal _ text).map _

theorem orderly_ofCondition (named : (s.index? c.field).isSome = true) :
    Orderly full (ofCondition s c) :=
  (fails_ofCondition named).mono fun _ h => h.expected

/-- A filter looks at the index of its field. -/
theorem index?_of_ofCondition (h : ofCondition s c = .ok f) :
    ∃ i, s.index? c.field = some i ∧ f.index = i.val := by
  unfold ofCondition at h
  split at h
  · exact absurd h (by simp)
  · rename_i i hi
    obtain ⟨vs, -, rfl⟩ := map_eq_ok.mp h
    exact ⟨i, hi, rfl⟩

theorem exists_accepted {r : Record} (h : f.index < r.values.length) :
    ∃ passes, f.accepted r = .ok passes := by
  unfold accepted
  rw [List.getElem?_eq_getElem h]
  exact ⟨_, rfl⟩

theorem exists_allAccepted {r : Record} : ∀ {filters : List Filter},
    (∀ f ∈ filters, f.index < r.values.length) → ∃ passes, allAccepted filters r = .ok passes
  | [], _ => ⟨true, rfl⟩
  | f :: rest, h => by
    obtain ⟨hf, hrest⟩ := List.forall_mem_cons.mp h
    obtain ⟨passes, hpasses⟩ := exists_accepted hf
    cases passes with
    | true =>
      obtain ⟨later, hlater⟩ := exists_allAccepted hrest
      exact ⟨later, bind_eq_ok.mpr ⟨true, hpasses, hlater⟩⟩
    | false => exact ⟨false, bind_eq_ok.mpr ⟨false, hpasses, rfl⟩⟩

theorem exists_keep : ∀ {rows : List Record},
    (∀ r ∈ rows, ∀ f ∈ filters, f.index < r.values.length) → ∃ kept, keep filters rows = .ok kept
  | [], _ => ⟨[], rfl⟩
  | r :: rest, h => by
    obtain ⟨hr, hrest⟩ := List.forall_mem_cons.mp h
    obtain ⟨passes, hpasses⟩ := exists_allAccepted hr
    obtain ⟨kept, hkept⟩ := exists_keep hrest
    exact ⟨_, bind_eq_ok.mpr ⟨passes, hpasses, bind_eq_ok.mpr ⟨kept, hkept, rfl⟩⟩⟩

/-- What is kept was there. -/
theorem mem_of_mem_keep : ∀ {rows kept : List Record}, keep filters rows = .ok kept →
    ∀ r ∈ kept, r ∈ rows
  | [], kept, h, r, hr => by
    obtain rfl := Except.ok.inj h
    exact absurd hr List.not_mem_nil
  | q :: rest, kept, h, r, hr => by
    unfold keep at h
    obtain ⟨passes, -, h⟩ := bind_eq_ok.mp h
    obtain ⟨others, hothers, h⟩ := bind_eq_ok.mp h
    obtain rfl := pure_eq_ok.mp h
    have later : r ∈ others → r ∈ q :: rest := fun hr =>
      List.mem_cons_of_mem _ (mem_of_mem_keep hothers r hr)
    split at hr
    · rcases List.mem_cons.mp hr with rfl | hr
      · exact List.mem_cons_self
      · exact later hr
    · exact later hr

end Filter

namespace Table

variable {full : Prop} {t : Table} {s : Schema} {q : Query}

/-- A table answers once conditions and order are read, if its rows are no shorter than the
schema. -/
theorem exists_answering (rows : ∀ r ∈ t.rows, s.fields.length ≤ r.values.length)
    {filters : List Filter} (hfilters : q.conditions.mapM (Filter.ofCondition s) = .ok filters)
    {order : Option (Nat × Direction)} (horder : ordering s q.order = .ok order) :
    ∃ answer, t.answering q filters order = .ok answer := by
  have indexes : ∀ f ∈ filters, f.index < s.fields.length := by
    intro f hf
    obtain ⟨c, -, hc⟩ := exists_of_forall₂ (mapM_eq_ok.mp hfilters) hf
    obtain ⟨i, -, index⟩ := Filter.index?_of_ofCondition hc
    exact index ▸ i.isLt
  obtain ⟨kept, hkept⟩ := Filter.exists_keep fun r hr f hf =>
    Nat.lt_of_lt_of_le (indexes f hf) (rows r hr)
  cases order with
  | none => exact ⟨_, bind_eq_ok.mpr ⟨kept, hkept, rfl⟩⟩
  | some o =>
    obtain ⟨i, d⟩ := o
    obtain ⟨-, j, -, -, rfl⟩ := index?_of_ordering horder
    have long : ∀ r ∈ kept, j.val < r.values.length := fun r hr =>
      Nat.lt_of_lt_of_le j.isLt (rows r (Filter.mem_of_mem_keep hkept r hr))
    exact ⟨_, bind_eq_ok.mpr ⟨kept, hkept, bind_eq_ok.mpr ⟨_, arrange_eq d long, rfl⟩⟩⟩

theorem exists_ordering {o : Option Order}
    (order : ∀ o', o = some o' → (s.index? o'.field).isSome = true) :
    ∃ asked, ordering s o = .ok asked := by
  cases o with
  | none => exact ⟨none, rfl⟩
  | some o =>
    obtain ⟨i, hi⟩ := Option.isSome_iff_exists.mp (order o rfl)
    simp only [ordering, orderIndex, hi]
    exact ⟨_, rfl⟩

/-- **A selection is orderly** where it names fields of its schema and rows are no shorter. -/
theorem orderly_select (conditions : ∀ c ∈ q.conditions, (s.index? c.field).isSome = true)
    (order : ∀ o, q.order = some o → (s.index? o.field).isSome = true)
    (rows : ∀ r ∈ t.rows, s.fields.length ≤ r.values.length) : Orderly full (t.select s q) := by
  rw [select_eq_bind]
  obtain ⟨o, ho⟩ := exists_ordering order
  refine (orderly_mapM fun c hc => Filter.orderly_ofCondition (conditions c hc)).bind
    fun filters hfilters => ?_
  obtain ⟨answer, hanswer⟩ := exists_answering rows hfilters ho
  rw [ho]
  show Orderly full (t.answering q filters o)
  rw [hanswer]
  exact orderly_ok answer

end Table

end Registrar
