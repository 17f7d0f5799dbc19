import Registrar.Proofs.Records
import Registrar.Proofs.Resolving
import Registrar.Service.Basic

/-!
# What a write works out

Before a record is written it is decoded, merged, flagged, stamped and checked. Each of these has
one lemma here that says which indexes it may change and that it keeps records well typed; the
lemmas about `created`, `revised` and `deleted` are put together from them.

* `MergeRule.eqOff_apply_tagged`: a merge changes only what is declared to change.
* `Lifecycle.Standard.preUpdate`: a standard hook changes the time of the last change and no more.
* `Service.created_spec`, `revised_spec`, `deleted_spec`: what the service hands to the store.
-/

namespace Registrar

/-! ## Flagging -/

namespace Record

variable {r r' : Record}

theorem flagged?_eq_some (h : r.flagged? = some r') :
    ∃ i, r.schema.softDelete = some i ∧ r' = r.put i (.bool true) := by
  unfold flagged? at h
  obtain ⟨i, hi, rfl⟩ := Option.map_eq_some_iff.mp h
  exact ⟨i, hi, rfl⟩

theorem flagged?_of_softDelete {i : Fin r.schema.fields.length}
    (hi : r.schema.softDelete = some i) : r.flagged? = some (r.put i (.bool true)) := by
  unfold flagged?
  rw [hi]
  rfl

theorem eqOff_flagged (h : r.flagged? = some r') : EqOff r.schema.IsSoftDelete r r' := by
  obtain ⟨i, hi, rfl⟩ := flagged?_eq_some h
  refine (r.eqOff_put i _).mono fun j hj => ?_
  unfold Schema.IsSoftDelete
  rw [hi, hj]
  rfl

theorem wellTyped_flagged (hs : r.schema.Sound) (hr : r.WellTyped) (h : r.flagged? = some r') :
    r'.WellTyped := by
  obtain ⟨i, hi, rfl⟩ := flagged?_eq_some h
  refine hr.put ?_
  rw [hs.softDelete i hi]
  trivial

end Record

/-! ## Merging -/

namespace Schema

variable {a b : Schema}

theorem name_eq_of_sameLayout (h : a.sameLayout b = true) : a.name = b.name := by
  unfold sameLayout at h
  exact beq_iff_eq.mp (Bool.and_eq_true_iff.mp h).1

theorem kind_eq_of_sameLayout (h : a.sameLayout b = true) {i : Nat} {f g : Field}
    (hf : a.fields[i]? = some f) (hg : b.fields[i]? = some g) : f.kind = g.kind := by
  unfold sameLayout at h
  have same := congrArg (fun l => l[i]?) (beq_iff_eq.mp (Bool.and_eq_true_iff.mp h).2)
  simp only [List.getElem?_map, hf, hg, Option.map_some, Option.some.injEq, Prod.mk.injEq] at same
  exact same.2

end Schema

namespace MergeRule

variable {rule : MergeRule} {source target m : Record}

/-- What is not copied stays. -/
theorem getElem?_pick : ∀ (fs : List Field) (as bs : List Value) (i : Nat),
    (∀ f, fs[i]? = some f → rule.copies f = false) → (rule.pick fs as bs)[i]? = bs[i]?
  | [], _, _, _, _ => by simp [pick]
  | _ :: _, [], _, _, _ => by simp [pick]
  | _ :: _, _ :: _, [], _, _ => by simp [pick]
  | f :: _, _ :: _, _ :: _, 0, h => by
    unfold pick
    rw [h f rfl]
    rfl
  | _ :: fs, _ :: as, _ :: bs, i + 1, h => getElem?_pick fs as bs i h

/-- What is at an index was there in one of the two. -/
theorem mem_of_getElem?_pick : ∀ (fs : List Field) (as bs : List Value) (i : Nat) {v : Value},
    (rule.pick fs as bs)[i]? = some v → as[i]? = some v ∨ bs[i]? = some v
  | [], _, _, _, _, h => .inr (by simpa [pick] using h)
  | _ :: _, [], _, _, _, h => .inr (by simpa [pick] using h)
  | _ :: _, _ :: _, [], _, _, h => by simp [pick] at h
  | f :: _, a :: _, b :: _, 0, v, h => by
    have h : (if rule.copies f then a else b) = v := Option.some.inj h
    split at h
    · exact .inl (congrArg some h)
    · exact .inr (congrArg some h)
  | _ :: fs, _ :: as, _ :: bs, i + 1, _, h => mem_of_getElem?_pick fs as bs i h

theorem apply_eq_ok (h : rule.apply source target = .ok m) :
    source.schema.sameLayout target.schema = true ∧ m.schema = target.schema ∧
      m.values = rule.pick source.schema.fields source.values target.values := by
  unfold apply at h
  split at h
  · rename_i same
    obtain rfl := Except.ok.inj h
    exact ⟨same, rfl, rfl⟩
  · exact absurd h (by simp)

theorem wellTyped_apply (hs : source.WellTyped) (ht : target.WellTyped)
    (h : rule.apply source target = .ok m) : m.WellTyped := by
  obtain ⟨same, schema, values⟩ := apply_eq_ok h
  intro i f v hf hv
  rw [schema] at hf
  rw [values] at hv
  rcases mem_of_getElem?_pick _ _ _ i hv with hv | hv
  · cases hg : source.schema.fields[i]? with
    | none =>
      rw [source.getElem?_values_eq_none hg] at hv
      exact absurd hv (by simp)
    | some g =>
      rw [← Schema.kind_eq_of_sameLayout same hg hf]
      exact hs i g v hg hv
  · exact ht i f v hf hv

/-- Names do not repeat, so only fields that are declared to change are copied. -/
theorem isMergeable_of_copies {s : Schema} (hs : s.Sound) {i : Nat} {f : Field}
    (hf : s.fields[i]? = some f) (h : (tagged s).copies f = true) : s.IsMergeable i := by
  obtain ⟨g, hg, hname⟩ := List.mem_map.mp (List.contains_iff_mem.mp h)
  obtain ⟨hg, hmerge⟩ := List.mem_filter.mp hg
  have same : g = f :=
    List.inj_on_of_nodup_map hs.fields hg (List.mem_of_getElem? hf) hname
  exact ⟨f, hf, by simpa [same] using hmerge⟩

/-- **A merge changes only what is declared to change.** -/
theorem eqOff_apply_tagged {s : Schema} (hs : s.Sound) (hsource : source.schema = s)
    (h : (tagged s).apply source target = .ok m) : Record.EqOff s.IsMergeable target m := by
  obtain ⟨-, schema, values⟩ := apply_eq_ok h
  refine ⟨schema, fun i hi => ?_⟩
  rw [values, hsource]
  refine getElem?_pick _ _ _ i fun f hf => ?_
  by_contra copied
  exact hi (isMergeable_of_copies hs hf (eq_true_of_ne_false copied))

end MergeRule

/-! ## Hooks -/

namespace Lifecycle

variable {l : Lifecycle} {now : Int64} {r r' : Record}

/-- A lifecycle with the hooks that stamp, or with those that only check. -/
def Standard (l : Lifecycle) : Prop := l = .stamped ∨ l = .plain

/-- The index that a lifecycle writes the time of a change to. -/
def Touches (l : Lifecycle) (s : Schema) (i : Nat) : Prop := l = .stamped ∧ s.IsUpdated i

theorem eq_of_checked (h : checked r = .ok r') : r' = r := by
  obtain ⟨_, -, rfl⟩ := map_eq_ok.mp h
  rfl

/-- A time is set if it fits the field. -/
theorem stampAt_some_eq_ok {i : Fin r.schema.fields.length} : stampAt now r (some i) = .ok r' ↔
    ∃ w, (Value.int now).coerce? (r.schema.fields.get i).kind = some w ∧ r' = r.put i w := by
  rw [← Record.setAt_eq_ok]
  unfold stampAt
  simp only
  cases r.setAt i (.int now) <;> simp

theorem stampAt_eq_ok {i : Option (Fin r.schema.fields.length)} (h : stampAt now r i = .ok r') :
    Record.EqOff (fun j => i.map Fin.val = some j) r r' ∧ (r.WellTyped → r'.WellTyped) := by
  cases i with
  | none =>
    obtain rfl := Except.ok.inj h
    exact ⟨.refl _ r, id⟩
  | some i =>
    obtain ⟨w, hw, rfl⟩ := stampAt_some_eq_ok.mp h
    refine ⟨(r.eqOff_put i w).mono fun j hj => ?_, fun hr => hr.put (Value.hasKind_of_coerce? hw)⟩
    rw [hj]
    rfl

/-- **A standard hook changes the time of the last change and no more.** -/
theorem Standard.preUpdate (hl : l.Standard) (h : l.preUpdate now r = .ok r') :
    Record.EqOff (l.Touches r.schema) r r' ∧ (r.WellTyped → r'.WellTyped) := by
  rcases hl with rfl | rfl
  · obtain ⟨stamped, hstamp, h⟩ := bind_eq_ok.mp h
    obtain rfl := eq_of_checked h
    obtain ⟨off, typed⟩ := stampAt_eq_ok hstamp
    exact ⟨off.mono fun j hj => ⟨rfl, hj⟩, typed⟩
  · obtain rfl := eq_of_checked h
    exact ⟨.refl _ _, id⟩

/-- A standard hook keeps a new record well typed and of its schema. -/
theorem Standard.preInsert (hl : l.Standard) (h : l.preInsert now r = .ok r') :
    r'.schema = r.schema ∧ (r.WellTyped → r'.WellTyped) := by
  rcases hl with rfl | rfl
  · obtain ⟨b, hb, h⟩ := bind_eq_ok.mp h
    obtain ⟨a, ha, hb⟩ := bind_eq_ok.mp hb
    obtain rfl := eq_of_checked h
    obtain ⟨created, typedCreated⟩ := stampAt_eq_ok ha
    obtain ⟨updated, typedUpdated⟩ := stampAt_eq_ok hb
    exact ⟨updated.schema.trans created.schema, fun hr => typedUpdated (typedCreated hr)⟩
  · obtain rfl := eq_of_checked h
    exact ⟨rfl, id⟩

end Lifecycle

/-! ## What the service hands to the store -/

namespace Service

variable {sv : Service} {now : Int64} {s : Schema} {body : Json} {current r : Record}

/-- Every resource has a standard lifecycle. -/
def Standard (sv : Service) : Prop := ∀ s ∈ sv.registry.schemas, (sv.lifecycleOf s).Standard

/-- The indexes that a change of a record may reach. -/
def Rewrites (sv : Service) (s : Schema) (i : Nat) : Prop :=
  s.IsMergeable i ∨ (sv.lifecycleOf s).Touches s i

theorem schema_eq_ok {resource : String} {op : Operation} (h : sv.schema resource op = .ok s) :
    s ∈ sv.registry.schemas ∧ s.name = resource ∧ s.allows op = true := by
  unfold schema at h
  split at h
  · exact absurd h (by simp)
  · rename_i found
    split at h
    · rename_i allowed
      obtain rfl := Except.ok.inj h
      exact ⟨List.mem_of_find?_eq_some found, by simpa using List.find?_some found, allowed⟩
    · exact absurd h (by simp)

theorem decode_eq_ok (h : decode s body = .ok r) : r.schema = s ∧ r.WellTyped := by
  unfold decode at h
  split at h
  · rename_i decoded
    obtain rfl := Except.ok.inj h
    exact Record.wellTyped_of_ofJson decoded
  · exact absurd h (by simp)

theorem created_spec (hl : (sv.lifecycleOf s).Standard) (h : sv.created now s body = .ok r) :
    r.schema = s ∧ r.WellTyped := by
  obtain ⟨decoded, hdecode, h⟩ := bind_eq_ok.mp h
  obtain ⟨rfl, typed⟩ := decode_eq_ok hdecode
  obtain ⟨schema, keep⟩ := hl.preInsert h
  exact ⟨schema, keep typed⟩

theorem revised_eq_ok (h : sv.revised now s body current = .ok r) :
    ∃ patch merged, decode s body = .ok patch ∧
      (MergeRule.tagged s).apply patch current = .ok merged ∧
      (sv.lifecycleOf s).preUpdate now merged = .ok r := by
  obtain ⟨patch, hdecode, h⟩ := bind_eq_ok.mp h
  split at h
  · exact absurd h (by simp [throw, throwThe, MonadExceptOf.throw])
  · rename_i merged hmerge
    exact ⟨patch, merged, hdecode, hmerge, h⟩

/-- A record is only changed through a resource of its own name. -/
theorem name_of_revised (h : sv.revised now s body current = .ok r) :
    current.schema.name = s.name := by
  obtain ⟨patch, merged, hdecode, hmerge, -⟩ := revised_eq_ok h
  obtain ⟨rfl, -⟩ := decode_eq_ok hdecode
  exact (Schema.name_eq_of_sameLayout (MergeRule.apply_eq_ok hmerge).1).symm

/-- **A change of a record reaches what is declared to change** and the time of the change. -/
theorem revised_spec (hs : s.Sound) (hl : (sv.lifecycleOf s).Standard)
    (hc : current.schema = s) (ht : current.WellTyped)
    (h : sv.revised now s body current = .ok r) :
    Record.EqOff (sv.Rewrites s) current r ∧ r.WellTyped := by
  obtain ⟨patch, merged, hdecode, hmerge, h⟩ := revised_eq_ok h
  obtain ⟨hpatch, typed⟩ := decode_eq_ok hdecode
  have off := MergeRule.eqOff_apply_tagged hs hpatch hmerge
  obtain ⟨stamp, keep⟩ := hl.preUpdate h
  rw [off.schema, hc] at stamp
  exact ⟨(off.mono fun i hi => .inl hi).trans (stamp.mono fun i hi => .inr hi),
    keep (MergeRule.wellTyped_apply typed ht hmerge)⟩

/-- **Deleting a record reaches its flag** and the time of the change. -/
theorem deleted_spec (hs : current.schema.Sound) (hl : (sv.lifecycleOf s).Standard)
    (ht : current.WellTyped) (h : sv.deleted now s current = .ok r) :
    Record.EqOff (fun i => current.schema.IsSoftDelete i ∨
      (sv.lifecycleOf s).Touches current.schema i) current r ∧ r.WellTyped := by
  unfold deleted at h
  split at h
  · exact absurd h (by simp)
  · rename_i flagged hflag
    have off := Record.eqOff_flagged hflag
    obtain ⟨stamp, keep⟩ := hl.preUpdate h
    rw [off.schema] at stamp
    exact ⟨(off.mono fun i hi => .inl hi).trans (stamp.mono fun i hi => .inr hi),
      keep (Record.wellTyped_flagged hs ht hflag)⟩

end Service

end Registrar
