import Registrar.Proofs.Deletion

/-!
# What a change makes of a row

A revision writes every field that is declared to change, whether its document has a value for it or
not, and a deletion writes the flag. What is written does not depend on the row: the same change
made of another row of the resource writes the same values there, and keeps the other values of that
row. It is accepted there too, if every value that it keeps is one that it kept before or one that
has been checked since.

* `Change.work_again`: a change that was accepted for one record, made of another one.
* `Makes.kept`: what is not written stays.
* `Makes.after`: a change after another change, of a row that both are accepted for.
-/

namespace Registrar

/-! ## Copied fields -/

namespace MergeRule

variable {rule : MergeRule}

/-- What is copied is taken from the source. -/
theorem getElem?_pick_of_copies : ∀ {fs : List Field} {as bs : List Value} {i : Nat} {f : Field},
    as.length = fs.length → bs.length = fs.length → fs[i]? = some f → rule.copies f = true →
      (rule.pick fs as bs)[i]? = as[i]?
  | [], _, _, _, _, _, _, hf, _ => absurd hf (by simp)
  | _ :: _, [], _, _, _, ha, _, _, _ => absurd ha (by simp)
  | _ :: _, _ :: _, [], _, _, _, hb, _, _ => absurd hb (by simp)
  | g :: _, a :: _, _ :: _, 0, f, _, _, hf, copied => by
    obtain rfl : g = f := Option.some.inj hf
    unfold pick
    rw [copied]
    rfl
  | _ :: fs, _ :: as, _ :: bs, i + 1, f, ha, hb, hf, copied => by
    show (rule.pick fs as bs)[i]? = as[i]?
    exact getElem?_pick_of_copies (by simpa using ha) (by simpa using hb) hf copied

/-- A field that is declared to change is copied. -/
theorem copies_of_isMergeable {s : Schema} {i : Nat} {f : Field} (hf : s.fields[i]? = some f)
    (h : s.IsMergeable i) : (tagged s).copies f = true := by
  obtain ⟨g, hg, merge⟩ := h
  obtain rfl : f = g := Option.some.inj (hf.symm.trans hg)
  refine List.contains_iff_mem.mpr (List.mem_map.mpr ⟨f, ?_, rfl⟩)
  exact List.mem_filter.mpr ⟨List.mem_of_getElem? hf, by simpa using merge⟩

end MergeRule

/-! ## Values at an index -/

namespace Record

variable {a b r r' : Record} {i : Nat}

theorem getElem?_flagged (h : r.flagged? = some r') (hi : r.schema.IsSoftDelete i) :
    r'.values[i]? = some (.bool true) := by
  obtain ⟨j, hj, rfl⟩ := flagged?_eq_some h
  have index : j.val = i := by
    unfold Schema.IsSoftDelete at hi
    rw [hj] at hi
    exact Option.some.inj hi
  rw [getElem?_put, if_pos index]

/-- What is stored at an index depends on the value there. -/
theorem getElem?_stored_congr (schema : b.schema = a.schema) (h : b.values[i]? = a.values[i]?) :
    b.stored.values[i]? = a.stored.values[i]? := by
  cases hf : a.schema.fields[i]? with
  | none =>
    rw [b.stored.getElem?_values_eq_none (schema ▸ hf), a.stored.getElem?_values_eq_none hf]
  | some f => rw [b.getElem?_stored (schema ▸ hf), a.getElem?_stored hf, h]

end Record

/-! ## What a change writes -/

namespace Change

variable {sv : Service} {now : Int64} {s : Schema} {change : Change}
  {current current' m r : Record}

/-- The indexes that a change writes, the time of the change apart. -/
def Writes (s : Schema) : Change → Nat → Prop
  | .revision _, i => s.IsMergeable i
  | .deletion, i => s.IsSoftDelete i

/-- What a change makes of a record before the hook. -/
def Applies (s : Schema) (current m : Record) : Change → Prop
  | .revision body => ∃ patch, Service.decode s body = .ok patch ∧
    (MergeRule.tagged s).apply patch current = .ok m
  | .deletion => current.flagged? = some m

theorem applies_unique {m' : Record} (h : change.Applies s current m)
    (h' : change.Applies s current m') : m = m' := by
  cases change with
  | revision body =>
    obtain ⟨patch, hdecode, hmerge⟩ := h
    obtain ⟨patch', hdecode', hmerge'⟩ := h'
    obtain rfl := Except.ok.inj (hdecode.symm.trans hdecode')
    exact Except.ok.inj (hmerge.symm.trans hmerge')
  | deletion => exact Option.some.inj (Eq.trans (Eq.symm h) h')

/-- A change is accepted iff it applies and the hook accepts what comes of it. -/
theorem work_eq_ok_iff : change.work sv now s current = .ok r ↔
    ∃ m, change.Applies s current m ∧ (sv.lifecycleOf s).preUpdate now m = .ok r := by
  cases change with
  | revision body =>
    constructor
    · intro h
      obtain ⟨patch, m, hdecode, hmerge, hook⟩ := Service.revised_eq_ok h
      exact ⟨m, ⟨patch, hdecode, hmerge⟩, hook⟩
    · rintro ⟨m, ⟨patch, hdecode, hmerge⟩, hook⟩
      refine bind_eq_ok.mpr ⟨patch, hdecode, ?_⟩
      rw [hmerge]
      exact hook
  | deletion =>
    show sv.deleted now s current = .ok r ↔ ∃ m, current.flagged? = some m ∧ _
    unfold Service.deleted
    cases current.flagged? with
    | none => simp
    | some flagged => simp

/-- **A change writes the same values** into every record of the resource, and keeps the others. -/
theorem applies_again (hs : s.Sound) (hc : current.schema = s) (hc' : current'.schema = s)
    (h : change.Applies s current m) :
    ∃ m', change.Applies s current' m' ∧ m'.schema = s ∧ ∀ i : Nat,
      (change.Writes s i → m'.values[i]? = m.values[i]?) ∧
      (¬ change.Writes s i → m'.values[i]? = current'.values[i]?) := by
  cases change with
  | revision body =>
    obtain ⟨patch, hdecode, hmerge⟩ := h
    obtain ⟨hpatch, -⟩ := Service.decode_eq_ok hdecode
    obtain ⟨same, -, values⟩ := MergeRule.apply_eq_ok hmerge
    have layout : patch.schema.sameLayout current'.schema = true := by rw [hc', ← hc]; exact same
    obtain ⟨m', hm'⟩ : ∃ m', (MergeRule.tagged s).apply patch current' = .ok m' := by
      unfold MergeRule.apply
      rw [if_pos layout]
      exact ⟨_, rfl⟩
    obtain ⟨-, schema', values'⟩ := MergeRule.apply_eq_ok hm'
    refine ⟨m', ⟨patch, hdecode, hm'⟩, schema'.trans hc', fun i => ⟨?_, ?_⟩⟩
    · intro written
      obtain ⟨f, hf, -⟩ := id written
      have copied := MergeRule.copies_of_isMergeable hf written
      have length : patch.values.length = s.fields.length := by rw [patch.length_values, hpatch]
      rw [values, values', hpatch,
        MergeRule.getElem?_pick_of_copies length (by rw [current'.length_values, hc']) hf copied,
        MergeRule.getElem?_pick_of_copies length (by rw [current.length_values, hc]) hf copied]
    · exact (MergeRule.eqOff_apply_tagged hs hpatch hm').values i
  | deletion =>
    subst hc'
    obtain ⟨m', hm'⟩ : ∃ m', current'.flagged? = some m' := by
      obtain ⟨j, hj, -⟩ := Record.flagged?_eq_some h
      rw [← Option.isSome_iff_exists]
      unfold Record.flagged?
      rw [Option.isSome_map, ← hc, hj]
      rfl
    have off := Record.eqOff_flagged hm'
    refine ⟨m', hm', off.schema, fun i => ⟨fun written => ?_, off.values i⟩⟩
    rw [Record.getElem?_flagged hm' written, Record.getElem?_flagged h (hc ▸ written)]

/-- What a change does to a record: it may reach what it writes and the time of the change. -/
theorem work_eqOff (hs : s.Sound) (hl : (sv.lifecycleOf s).Standard) (hc : current.schema = s)
    (ht : current.WellTyped) (h : change.work sv now s current = .ok r) :
    Record.EqOff (fun i => change.Writes s i ∨ (sv.lifecycleOf s).Touches s i) current r ∧
      r.WellTyped := by
  cases change with
  | revision body => exact Service.revised_spec hs hl hc ht h
  | deletion =>
    subst hc
    exact Service.deleted_spec hs hl ht h

/-- **A change that was accepted for one record is accepted for another one**, if every value that
it keeps there is one that it kept before or is valid; and it writes what it wrote before. -/
theorem work_again (hs : s.Sound) (hl : (sv.lifecycleOf s).Standard) (hc : current.schema = s)
    (hc' : current'.schema = s) (h : change.work sv now s current = .ok r)
    (kept : ∀ i : Nat, ¬ change.Writes s i →
      current'.values[i]? = current.values[i]? ∨ current'.ValidAt i) :
    ∃ r', change.work sv now s current' = .ok r' ∧ r'.schema = s ∧
      ∀ i : Nat, ¬ (sv.lifecycleOf s).Touches s i →
        (change.Writes s i → r'.values[i]? = r.values[i]?) ∧
        (¬ change.Writes s i → r'.values[i]? = current'.values[i]?) := by
  obtain ⟨m, hm, hook⟩ := work_eq_ok_iff.mp h
  obtain ⟨m', hm', schema', again⟩ := applies_again hs hc hc' hm
  obtain ⟨m'', hm'', schema, same⟩ := applies_again hs hc hc hm
  obtain rfl : m'' = m := applies_unique hm'' hm
  obtain ⟨valid, time⟩ := hl.exists_preUpdate_iff.mp ⟨r, hook⟩
  rw [schema] at valid time
  have accepted : ∃ r', (sv.lifecycleOf s).preUpdate now m' = .ok r' := by
    refine hl.exists_preUpdate_iff.mpr ⟨fun i untouched => ?_, by rw [schema']; exact time⟩
    rw [schema'] at untouched
    -- a value of the other record is written, or kept from before, or valid
    by_cases written : change.Writes s i
    · exact Record.ValidAt.congr (schema'.trans schema.symm) ((again i).1 written)
        (valid i untouched)
    · rcases kept i written with before | checked
      · refine Record.ValidAt.congr (schema'.trans schema.symm) ?_ (valid i untouched)
        rw [(again i).2 written, before, (same i).2 written]
      · exact Record.ValidAt.congr (schema'.trans hc'.symm) ((again i).2 written) checked
  obtain ⟨r', hook'⟩ := accepted
  have stamp := (hl.preUpdate hook).1
  have stamp' := (hl.preUpdate hook').1
  rw [schema] at stamp
  rw [schema'] at stamp'
  refine ⟨r', work_eq_ok_iff.mpr ⟨m', hm', hook'⟩, stamp'.schema.trans schema',
    fun i untouched => ⟨fun written => ?_, fun other => ?_⟩⟩
  · rw [stamp'.values i untouched, (again i).1 written, stamp.values i untouched]
  · rw [stamp'.values i untouched, (again i).2 other]

end Change

/-! ## Rows -/

/-- A record of a resource as it is in a row. -/
structure Record.RowOf (s : Schema) (row : Record) : Prop where
  schema : row.schema = s
  typed : row.WellTyped
  settled : row.Settled

/-- A change makes one row of another: what it works out is stored. -/
def Makes (sv : Service) (now : Int64) (s : Schema) (change : Change) (row row' : Record) : Prop :=
  ∃ r, change.work sv now s row = .ok r ∧ row' = r.stored

/-- A resource whose records can be changed under the key that they have. -/
structure Service.Edits (sv : Service) (s : Schema) : Prop where
  sound : s.Sound
  standard : (sv.lifecycleOf s).Standard
  key : ¬ s.IsMergeable s.primaryKey
  time : ¬ s.IsUpdated s.primaryKey

namespace Makes

variable {sv : Service} {now now' : Int64} {s : Schema} {change change' : Change}
  {row row' row'' : Record}

theorem eqOff (ed : sv.Edits s) (hrow : row.RowOf s) (h : Makes sv now s change row row') :
    Record.EqOff (fun i => change.Writes s i ∨ (sv.lifecycleOf s).Touches s i) row row' := by
  obtain ⟨r, hwork, rfl⟩ := h
  exact (Change.work_eqOff ed.sound ed.standard hrow.schema hrow.typed hwork).1.stored hrow.settled

/-- What a row is made of is a row again. -/
theorem rowOf (ed : sv.Edits s) (hrow : row.RowOf s) (h : Makes sv now s change row row') :
    row'.RowOf s := by
  have off := h.eqOff ed hrow
  obtain ⟨r, hwork, rfl⟩ := h
  have typed := (Change.work_eqOff ed.sound ed.standard hrow.schema hrow.typed hwork).2
  exact ⟨off.schema.trans hrow.schema, typed.stored, r.settled_stored⟩

/-- A change keeps the key. -/
theorem key (ed : sv.Edits s) (hrow : row.RowOf s) (h : Makes sv now s change row row') :
    row'.key = row.key := by
  refine (h.eqOff ed hrow).key ?_
  rw [hrow.schema]
  rintro (written | touched)
  · cases change with
    | revision body => exact ed.key written
    | deletion =>
      obtain ⟨j, hj, same⟩ := Option.map_eq_some_iff.mp written
      exact ed.sound.key_ne_flag hj same.symm
  · exact ed.time touched.2

/-- A value of what was made was there before, or has been checked. -/
theorem kept_or_validAt (ed : sv.Edits s) (hrow : row.RowOf s)
    (h : Makes sv now s change row row') (i : Nat) :
    row'.values[i]? = row.values[i]? ∨ row'.ValidAt i := by
  have off := h.eqOff ed hrow
  have hrow' := h.rowOf ed hrow
  obtain ⟨r, hwork, rfl⟩ := h
  have valid := Service.valid_of_work ed.standard hwork
  have schema : r.schema = s := hrow'.schema
  cases hf : s.fields[i]? with
  | none =>
    left
    rw [r.stored.getElem?_values_eq_none (schema ▸ hf),
      row.getElem?_values_eq_none (hrow.schema ▸ hf)]
  | some f =>
    cases persisted : f.isPersisted with
    | true =>
      right
      refine (valid i).stored fun g hg => ?_
      rw [schema, hf] at hg
      rw [← Option.some.inj hg]
      exact persisted
    | false =>
      left
      rw [hrow'.settled i f (hrow'.schema ▸ hf) persisted,
        hrow.settled i f (hrow.schema ▸ hf) persisted]

/-- **A change after another one**, of a row that both are accepted for, is accepted too; it writes
what it would have written, and keeps what the other one made. -/
theorem after (ed : sv.Edits s) (hrow : row.RowOf s) (h : Makes sv now s change row row')
    (h' : Makes sv now' s change' row row'') :
    ∃ z, Makes sv now s change row'' z ∧ z.schema = s ∧
      ∀ i : Nat, ¬ (sv.lifecycleOf s).Touches s i →
        (change.Writes s i → z.values[i]? = row'.values[i]?) ∧
        (¬ change.Writes s i → z.values[i]? = row''.values[i]?) := by
  have hrow'' := h'.rowOf ed hrow
  have hrow' := h.rowOf ed hrow
  obtain ⟨r, hwork, rfl⟩ := h
  obtain ⟨r', hwork', schema', again⟩ := Change.work_again ed.sound ed.standard hrow.schema
    hrow''.schema hwork fun i _ => h'.kept_or_validAt ed hrow i
  refine ⟨r'.stored, ⟨r', hwork', rfl⟩, schema',
    fun i untouched => ⟨fun written => ?_, fun other => ?_⟩⟩
  · exact Record.getElem?_stored_congr (schema'.trans hrow'.schema.symm)
      ((again i untouched).1 written)
  · have settled : row''.stored.values[i]? = row''.values[i]? :=
      ((Record.EqOff.refl (fun _ => False) row'').stored hrow''.settled).values i id
    rw [← settled]
    exact Record.getElem?_stored_congr (schema'.trans hrow''.schema.symm)
      ((again i untouched).2 other)

end Makes

end Registrar
