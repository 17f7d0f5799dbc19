import Registrar.Proofs.FloatOrder
import Registrar.Proofs.Typing
import Registrar.Proofs.Valid

/-!
# No request stores a NaN

A float in a document is finite, and so is the float of a whole number of 64 bits. What requests
put into records comes from documents, times, numbers of keys, flags and zeros, and so no row that
requests have written holds a NaN. A store that is written to by other means may hold one.

* `Value.isNaN_of_coerce?`: conforming a value to a kind makes no NaN of it.
* `Service.nanFree_created`, `nanFree_work`: what the service hands to the store holds none.
* `Traffic.nanFree_step`: no step of a request stores one.
* **`Traffic.nanFree_of_run`**: in every state that requests reach, no row holds one.
-/

namespace Registrar

/-! ## Values -/

namespace Value

variable {k : Kind} {v w : Value}

theorem isNaN_ofInt (n : Int64) : (Float.ofInt n.toInt).isNaN = false := by
  have high := n.toInt_lt
  have low := n.le_toInt
  exact Floats.isNaN_of_isFinite (isFinite_ofInt (by omega))

theorem isNaN_ofNat (n : UInt64) : (Float.ofNat n.toNat).isNaN = false :=
  Floats.isNaN_of_isFinite (isFinite_ofNat n.toNat_lt)

theorem isNaN_zero (k : Kind) : (zero k).isNaN = false := by
  cases k with
  | float => exact Floats.isNaN_of_isFinite (isFinite_ofNat (by decide))
  | _ => rfl

/-- **Conforming a value to a kind makes no NaN of it.** -/
theorem isNaN_of_coerce? (hv : v.isNaN = false) (h : v.coerce? k = some w) : w.isNaN = false := by
  cases w with
  | float x =>
    -- only a float or a whole number is conformed to a float
    cases v with
    | null =>
      rw [← (Option.some.inj h : zero k = .float x)]
      exact isNaN_zero k
    | int n => cases k <;> simp [coerce?] at h; rw [← h]; exact isNaN_ofInt n
    | uint n => cases k <;> simp [coerce?] at h; rw [← h]; exact isNaN_ofNat n
    | float y => cases k <;> simp [coerce?] at h; rw [← h]; exact hv
    | _ => cases k <;> simp [coerce?] at h
  | _ => rfl

/-- A float in a document is finite. -/
theorem isNaN_ofJson (j : Json) : (ofJson j).isNaN = false := by
  cases j with
  | number n =>
    rw [ofJson]
    cases n with
    | nat n =>
      rw [ofNumber]
      split <;> rfl
    | neg n below => rfl
    | float x finite => exact Floats.isNaN_of_isFinite finite
  | _ => rfl

end Value

/-! ## Records -/

namespace Record

variable {r r' : Record}

/-- No value of a record is a NaN. -/
def NanFree (r : Record) : Prop := ∀ v ∈ r.values, v.isNaN = false

theorem NanFree.put (h : r.NanFree) {i : Fin r.schema.fields.length} {v : Value}
    (hv : v.isNaN = false) : (r.put i v).NanFree := by
  intro w hw
  rcases List.mem_or_eq_of_mem_set hw with hw | rfl
  · exact h w hw
  · exact hv

theorem NanFree.stored (h : r.NanFree) : r.stored.NanFree := by
  intro v hv
  obtain ⟨i, hi⟩ := List.mem_iff_getElem?.mp hv
  obtain ⟨f, w, hf, hw, rfl⟩ := List.getElem?_zipWith_eq_some.mp hi
  split
  · exact h w (List.mem_of_getElem? hw)
  · exact Value.isNaN_zero f.kind

theorem isNaN_of_decodeField {members : List (String × Json)} {f : Field} {v : Value}
    (h : decodeField members f = .ok v) : v.isNaN = false := by
  unfold decodeField at h
  split at h
  · obtain rfl := Except.ok.inj h
    exact Value.isNaN_zero f.kind
  · split at h
    · obtain rfl := Except.ok.inj h
      exact Value.isNaN_zero f.kind
    · simp only at h
      split at h
      · rename_i j _ _ w hw
        obtain rfl := Except.ok.inj h
        exact Value.isNaN_of_coerce? (Value.isNaN_ofJson j) hw
      · exact absurd h (by simp)

/-- A document says no NaN. -/
theorem nanFree_of_ofJson {s : Schema} {j : Json} (h : ofJson s j = .ok r) : r.NanFree := by
  cases j with
  | object members =>
    obtain ⟨-, all⟩ := ofJson_eq_ok_iff.mp h
    intro v hv
    obtain ⟨f, -, hf⟩ := exists_of_forall₂ all hv
    exact isNaN_of_decodeField hf
  | _ => exact absurd h (by simp [ofJson])

theorem NanFree.flagged (h : r.NanFree) (hr : r.flagged? = some r') : r'.NanFree := by
  obtain ⟨i, -, rfl⟩ := flagged?_eq_some hr
  exact h.put rfl

theorem NanFree.merge {rule : MergeRule} {source target : Record} (hs : source.NanFree)
    (ht : target.NanFree) (h : rule.apply source target = .ok r) : r.NanFree := by
  obtain ⟨-, -, values⟩ := MergeRule.apply_eq_ok h
  intro v hv
  rw [values] at hv
  obtain ⟨i, hi⟩ := List.mem_iff_getElem?.mp hv
  rcases MergeRule.mem_of_getElem?_pick _ _ _ i hi with hi | hi
  · exact hs v (List.mem_of_getElem? hi)
  · exact ht v (List.mem_of_getElem? hi)

end Record

/-! ## What the service hands to the store -/

namespace Lifecycle

variable {l : Lifecycle} {now : Int64} {r r' : Record}

theorem nanFree_stampAt {i : Option (Fin r.schema.fields.length)} (hr : r.NanFree)
    (h : stampAt now r i = .ok r') : r'.NanFree := by
  cases i with
  | none =>
    obtain rfl := Except.ok.inj h
    exact hr
  | some i =>
    obtain ⟨w, hw, rfl⟩ := stampAt_some_eq_ok.mp h
    exact hr.put (Value.isNaN_of_coerce? (v := .int now) rfl hw)

theorem Standard.nanFree_preUpdate (hl : l.Standard) (hr : r.NanFree)
    (h : l.preUpdate now r = .ok r') : r'.NanFree := by
  rcases hl with rfl | rfl
  · obtain ⟨stamped, hstamp, h⟩ := bind_eq_ok.mp h
    obtain rfl := eq_of_checked h
    exact nanFree_stampAt hr hstamp
  · obtain rfl := eq_of_checked h
    exact hr

theorem Standard.nanFree_preInsert (hl : l.Standard) (hr : r.NanFree)
    (h : l.preInsert now r = .ok r') : r'.NanFree := by
  rcases hl with rfl | rfl
  · obtain ⟨b, hb, h⟩ := bind_eq_ok.mp h
    obtain ⟨a, ha, hb⟩ := bind_eq_ok.mp hb
    obtain rfl := eq_of_checked h
    exact nanFree_stampAt (nanFree_stampAt hr ha) hb
  · obtain rfl := eq_of_checked h
    exact hr

end Lifecycle

namespace Service

variable {sv : Service} {now : Int64} {s : Schema} {body : Json} {current r : Record}

theorem nanFree_decode (h : decode s body = .ok r) : r.NanFree := by
  unfold decode at h
  split at h
  · rename_i decoded
    obtain rfl := Except.ok.inj h
    exact Record.nanFree_of_ofJson decoded
  · exact absurd h (by simp)

theorem nanFree_created (hl : (sv.lifecycleOf s).Standard) (h : sv.created now s body = .ok r) :
    r.NanFree := by
  obtain ⟨decoded, hdecode, h⟩ := bind_eq_ok.mp h
  exact hl.nanFree_preInsert (nanFree_decode hdecode) h

/-- What is worked out of a copy without a NaN has none. -/
theorem nanFree_work {change : Change} (hl : (sv.lifecycleOf s).Standard) (hc : current.NanFree)
    (h : change.work sv now s current = .ok r) : r.NanFree := by
  unfold Change.work at h
  split at h
  · obtain ⟨patch, merged, hdecode, hmerge, h⟩ := revised_eq_ok h
    exact hl.nanFree_preUpdate ((nanFree_decode hdecode).merge hc hmerge) h
  · unfold deleted at h
    split at h
    · exact absurd h (by simp)
    · rename_i flagged hflag
      exact hl.nanFree_preUpdate (hc.flagged hflag) h

end Service

theorem Table.nanFree_of_insert {t t' : Table} {r stored : Record} (hr : r.NanFree)
    (h : t.insert r = .ok (stored, t')) : stored.NanFree := by
  rcases insert_cases h with ⟨-, -, rfl, -⟩ | ⟨-, n, w, -, fits, rfl, -⟩
  · exact hr.stored
  · refine (hr.put (Value.isNaN_of_coerce? ?_ fits)).stored
    unfold assigned
    split <;> rfl

/-! ## Every state -/

namespace Traffic

variable {sv : Service} {t t' : Traffic}

/-- Neither a row nor a copy that a request holds has a NaN in it. -/
structure NanFree (t : Traffic) : Prop where
  rows : ∀ c, ∀ r ∈ (t.store.table c).rows, r.NanFree
  pending : ∀ p ∈ t.pending, p.current.NanFree

theorem nanFree_start : start.NanFree :=
  ⟨fun _ _ h => absurd h List.not_mem_nil, fun _ h => absurd h List.not_mem_nil⟩

/-- **No step of a request stores a NaN.** -/
theorem nanFree_step (hstd : sv.Standard)
    (pending : ∀ p ∈ t.pending, p.schema ∈ sv.registry.schemas)
    (ht : t.NanFree) (h : Step sv t t') : t'.NanFree := by
  constructor
  · intro c row hrow
    rcases rows_step h hrow with
      before | ⟨s, now, body, r, _, _, hs, hr, hinsert⟩ | ⟨p, hp, now, r, hwork, rfl⟩
    · exact ht.rows c row before
    · exact Table.nanFree_of_insert (Service.nanFree_created (hstd s hs) hr) hinsert
    · exact (Service.nanFree_work (hstd _ (pending p hp)) (ht.pending p hp) hwork).stored
  · intro p hp
    rcases pending_step h hp with before | ⟨resource, id, -, hfind⟩
    · exact ht.pending p before
    · exact ht.rows _ _ (List.mem_of_find?_eq_some hfind)

/-- **No row that requests have written holds a NaN**, in any state that they reach. -/
theorem nanFree_of_run (hstd : sv.Standard) (h : Reachable sv t) : t.NanFree := by
  induction h with
  | refl => exact nanFree_start
  | tail run step ih => exact nanFree_step hstd (pending_of_run run) ih step

end Traffic

end Registrar
