import Mathlib
import Registrar.Proofs.Outcomes
import Registrar.Registry

/-!
# What a resolved registry promises

Everything later proofs need to know of a descriptor document is said here once: which resources
its check accepts (`Descriptor.Resource.Valid`), and what the schemas that come of them are like
(`Schema.Sound`).

* `Descriptor.Resource.check_eq_ok_iff`: the check of a resource succeeds iff it is valid.
* `Registry.sound_of_resolve`: the schemas of a resolved registry are sound, and no two have one
  name.
-/

namespace Registrar

namespace Descriptor

/-! ## The check of a descriptor -/

namespace Resource

/-- What makes a resource fit together. -/
structure Valid (r : Resource) : Prop where
  fields : (r.fields.map (·.name)).Nodup
  primaryKey : ∃ f, r.field? r.primaryKey = some f ∧ f.isUnpersisted = false ∧
    isKeyKind f.kind = true
  created : ∀ name, r.created = some name → ∃ f, r.field? name = some f ∧ isTimeKind f.kind = true
  updated : ∀ name, r.updated = some name → ∃ f, r.field? name = some f ∧ isTimeKind f.kind = true
  softDelete : ∀ name, r.softDelete = some name → ∃ f, r.field? name = some f ∧ f.kind = .bool
  deletable : r.softDelete = none → r.operations.contains .delete = false

end Resource

theorem firstRepeated?_eq_none_iff : ∀ {names seen : List String},
    firstRepeated? seen names = none ↔ names.Nodup ∧ ∀ n ∈ names, n ∉ seen
  | [], seen => by simp [firstRepeated?]
  | name :: rest, seen => by
    unfold firstRepeated?
    split
    · rename_i h
      have : name ∈ seen := by simpa using h
      simp [this]
    · rename_i h
      have fresh : name ∉ seen := by simpa using h
      rw [firstRepeated?_eq_none_iff, List.nodup_cons]
      constructor
      · rintro ⟨hn, hs⟩
        refine ⟨⟨fun hm => hs name hm List.mem_cons_self, hn⟩, fun n hm => ?_⟩
        rcases List.mem_cons.mp hm with rfl | hm
        · exact fresh
        · exact fun hs' => hs n hm (List.mem_cons_of_mem _ hs')
      · rintro ⟨⟨hm, hn⟩, hs⟩
        refine ⟨hn, fun n hn' => ?_⟩
        rw [List.mem_cons, not_or]
        exact ⟨fun e => hm (e ▸ hn'), hs n (List.mem_cons_of_mem _ hn')⟩

namespace Resource

theorem reference_eq_ok {r : Resource} {role : Role} {name : String} {f : Field} :
    r.reference role name = .ok f ↔ r.field? name = some f := by
  unfold reference
  cases r.field? name <;> simp

theorem checkFields_eq_ok {r : Resource} :
    r.checkFields = .ok () ↔ (r.fields.map (·.name)).Nodup := by
  have h : firstRepeated? [] (r.fields.map (·.name)) = none ↔ (r.fields.map (·.name)).Nodup := by
    simp [firstRepeated?_eq_none_iff]
  unfold checkFields
  rw [← h]
  cases firstRepeated? [] (r.fields.map (·.name)) <;> simp

theorem checkPrimaryKey_eq_ok {r : Resource} :
    r.checkPrimaryKey = .ok () ↔ ∃ f, r.field? r.primaryKey = some f ∧ f.isUnpersisted = false ∧
      isKeyKind f.kind = true := by
  unfold checkPrimaryKey
  rw [bind_eq_ok]
  refine exists_congr fun f => and_congr reference_eq_ok ?_
  cases f.isUnpersisted <;> cases isKeyKind f.kind <;> simp [seq_eq_ok, pure, Except.pure]

theorem checkTimestamp_eq_ok {r : Resource} {role : Role} {time : Option String} :
    r.checkTimestamp role time = .ok () ↔
      ∀ name, time = some name → ∃ f, r.field? name = some f ∧ isTimeKind f.kind = true := by
  cases time with
  | none => simp [checkTimestamp]
  | some name =>
    simp only [checkTimestamp, Option.some.injEq, forall_eq']
    rw [bind_eq_ok]
    refine exists_congr fun f => and_congr reference_eq_ok ?_
    cases isTimeKind f.kind <;> simp [pure, Except.pure]

theorem checkSoftDelete_eq_ok {r : Resource} :
    r.checkSoftDelete = .ok () ↔
      (∀ name, r.softDelete = some name → ∃ f, r.field? name = some f ∧ f.kind = .bool) ∧
      (r.softDelete = none → r.operations.contains .delete = false) := by
  unfold checkSoftDelete
  cases r.softDelete with
  | none => cases r.operations.contains .delete <;> simp
  | some name =>
    simp only [Option.some.injEq, forall_eq', reduceCtorEq, false_implies, and_true]
    rw [bind_eq_ok]
    refine exists_congr fun f => and_congr reference_eq_ok ?_
    by_cases h : f.kind = .bool <;> simp [h, pure, Except.pure]

/-- **The check of a resource succeeds iff the resource is valid.** -/
theorem check_eq_ok_iff {r : Resource} : r.check = .ok () ↔ r.Valid := by
  unfold check
  rw [seq_eq_ok, seq_eq_ok, seq_eq_ok, seq_eq_ok, checkFields_eq_ok, checkPrimaryKey_eq_ok,
    checkTimestamp_eq_ok, checkTimestamp_eq_ok, checkSoftDelete_eq_ok]
  constructor
  · rintro ⟨hf, hk, hc, hu, hs, hd⟩
    exact ⟨hf, hk, hc, hu, hs, hd⟩
  · rintro ⟨hf, hk, hc, hu, hs, hd⟩
    exact ⟨hf, hk, hc, hu, hs, hd⟩

end Resource

/-- **Resources are accepted** iff each is valid and no name is met twice. -/
theorem checkResources_eq_ok_iff : ∀ {rs : List Resource} {seen : List String},
    checkResources seen rs = .ok () ↔
      (∀ r ∈ rs, r.Valid) ∧ (rs.map (·.name)).Nodup ∧ ∀ r ∈ rs, r.name ∉ seen
  | [], seen => by simp [checkResources]
  | r :: rest, seen => by
    unfold checkResources
    split
    · rename_i h
      have : r.name ∈ seen := by simpa using h
      simp [this]
    · rename_i h
      have fresh : r.name ∉ seen := by simpa using h
      rw [seq_eq_ok, Resource.check_eq_ok_iff, checkResources_eq_ok_iff, List.map_cons,
        List.nodup_cons, List.forall_mem_cons, List.forall_mem_cons]
      constructor
      · rintro ⟨hv, hvs, hn, hs⟩
        refine ⟨⟨hv, hvs⟩, ⟨fun hm => ?_, hn⟩, fresh, fun r' hr' hs' => ?_⟩
        · obtain ⟨r', hr', e⟩ := List.mem_map.mp hm
          exact hs r' hr' (e ▸ List.mem_cons_self)
        · exact hs r' hr' (List.mem_cons_of_mem _ hs')
      · rintro ⟨⟨hv, hvs⟩, ⟨hm, hn⟩, -, hs⟩
        refine ⟨hv, hvs, hn, fun r' hr' => ?_⟩
        rw [List.mem_cons, not_or]
        exact ⟨fun e => hm (List.mem_map.mpr ⟨r', hr', e⟩), hs r' hr'⟩

/-! ## Fields -/

theorem Field.resolve_eq_ok {resource : String} {f : Field} {g : Registrar.Field}
    (h : f.resolve resource = .ok g) :
    g.name = f.name ∧ g.kind = f.kind ∧ g.isPersisted = !f.isUnpersisted ∧
      g.mergeable = mergeFlag f.merge := by
  unfold Field.resolve at h
  simp only at h
  split at h
  · exact absurd h (by simp)
  · obtain rfl := Except.ok.inj h
    refine ⟨rfl, rfl, ?_, rfl⟩
    simp only [Registrar.Field.isPersisted, Field.isUnpersisted, Key.choose]
    cases f.column with
    | none => rfl
    | some text =>
      by_cases hc : Text.trim text = "-"
      · simp [hc]
      · simp only [hc, if_false]
        split <;> simp [hc]

/-- Where names do not repeat, a name has the one index whose field has it. -/
theorem findFinIdx?_eq_some_iff {fields : List Registrar.Field} (hn : (fields.map (·.name)).Nodup)
    {name : String} {i : Fin fields.length} :
    fields.findFinIdx? (·.name = name) = some i ↔ (fields.get i).name = name := by
  have unique : ∀ j : Fin fields.length, (fields.get j).name = (fields.get i).name → j = i := by
    intro j same
    refine Fin.ext ((List.getElem?_inj (by rw [List.length_map]; exact j.isLt) hn).mp ?_)
    simpa using same
  rw [List.findFinIdx?_eq_some_iff]
  constructor
  · rintro ⟨found, -⟩
    simpa using found
  · intro found
    refine ⟨by simpa using found, fun j before holds => ?_⟩
    have same : (fields.get j).name = (fields.get i).name := by
      rw [found]
      simpa using holds
    exact absurd (unique j same) (ne_of_lt before)

theorem indexIn_eq_ok {resource name : String} {fields : List Registrar.Field}
    {i : Fin fields.length} (h : indexIn resource fields name = .ok i) :
    (fields.get i).name = name := by
  unfold indexIn at h
  split at h
  · rename_i j hj
    obtain rfl := Except.ok.inj h
    simpa using (List.findFinIdx?_eq_some_iff.mp hj).1
  · exact absurd h (by simp)

theorem optionalIndexIn_eq_ok {resource : String} {fields : List Registrar.Field}
    {given : Option String} {o : Option (Fin fields.length)}
    (h : optionalIndexIn resource fields given = .ok o) :
    o.map (fun i => (fields.get i).name) = given := by
  cases given with
  | none =>
    obtain rfl := Except.ok.inj h
    rfl
  | some name =>
    obtain ⟨i, hi, rfl⟩ := map_eq_ok.mp h
    simpa using indexIn_eq_ok hi

end Descriptor

/-! ## Sound schemas -/

/-- What resolving settles about a schema: names do not repeat, and the fields that play a role are
of a kind that can play it. -/
structure Schema.Sound (s : Schema) : Prop where
  fields : (s.fields.map (·.name)).Nodup
  keyKind : Descriptor.isKeyKind s.keyField.kind = true
  keyPersisted : s.keyField.isPersisted = true
  created : ∀ i, s.created = some i → Descriptor.isTimeKind (s.fields.get i).kind = true
  updated : ∀ i, s.updated = some i → Descriptor.isTimeKind (s.fields.get i).kind = true
  softDelete : ∀ i, s.softDelete = some i → (s.fields.get i).kind = .bool
  deletable : s.allows .delete = true → s.softDelete.isSome = true

/-- Sound schemas, each with a name of its own. -/
structure Registry.Sound (reg : Registry) : Prop where
  schemas : ∀ s ∈ reg.schemas, s.Sound
  names : (reg.schemas.map (·.name)).Nodup

namespace Descriptor

variable {r : Resource} {fields : List Registrar.Field}

theorem map_name_of_resolve
    (h : List.Forall₂ (fun f g => Field.resolve r.name f = .ok g) r.fields fields) :
    fields.map (·.name) = r.fields.map (·.name) :=
  map_eq_of_forall₂ (h.imp fun _ _ hf => (Field.resolve_eq_ok hf).1)

/-- The field that a name stands for after resolving is the one it stood for before. -/
theorem resolve_of_name (hn : (r.fields.map (·.name)).Nodup)
    (h : List.Forall₂ (fun f g => Field.resolve r.name f = .ok g) r.fields fields)
    {name : String} {f : Field} (hf : r.field? name = some f) {i : Fin fields.length}
    (hi : (fields.get i).name = name) : Field.resolve r.name f = .ok (fields.get i) := by
  obtain ⟨f', hm, hr⟩ := exists_of_forall₂ h (List.get_mem fields i)
  have hname : f'.name = name := (Field.resolve_eq_ok hr).1.symm.trans hi
  have hfn : f.name = name := by simpa using List.find?_some hf
  have same : f = f' :=
    List.inj_on_of_nodup_map hn (List.mem_of_find?_eq_some hf) hm (hfn.trans hname.symm)
  rw [same]
  exact hr

/-- **A valid resource resolves to a sound schema** of its name. -/
theorem Resource.resolve_sound {s : Schema} (hv : r.Valid) (h : r.resolve = .ok s) :
    s.Sound ∧ s.name = r.name := by
  unfold Resource.resolve at h
  obtain ⟨fields, hfields, h⟩ := bind_eq_ok.mp h
  obtain ⟨key, hkey, h⟩ := bind_eq_ok.mp h
  obtain ⟨created, hcreated, h⟩ := bind_eq_ok.mp h
  obtain ⟨updated, hupdated, h⟩ := bind_eq_ok.mp h
  obtain ⟨softDelete, hsoftDelete, h⟩ := bind_eq_ok.mp h
  obtain rfl := pure_eq_ok.mp h
  have all := mapM_eq_ok.mp hfields
  -- a role that is played names the field with its index
  have role : ∀ {given : Option String} {o : Option (Fin fields.length)} {p : Kind → Prop},
      optionalIndexIn r.name fields given = .ok o →
      (∀ name, given = some name → ∃ f, r.field? name = some f ∧ p f.kind) →
      ∀ i, o = some i → p (fields.get i).kind := by
    rintro given o p ho hp i rfl
    have hname := optionalIndexIn_eq_ok ho
    obtain ⟨f, hf, hpf⟩ := hp _ hname.symm
    rw [(Field.resolve_eq_ok (resolve_of_name hv.fields all hf rfl)).2.1]
    exact hpf
  obtain ⟨f, hf, hpersisted, hkind⟩ := hv.primaryKey
  obtain ⟨-, keyKind, keyPersisted, -⟩ :=
    Field.resolve_eq_ok (resolve_of_name hv.fields all hf (indexIn_eq_ok hkey))
  refine ⟨⟨?_, ?_, ?_, ?_, ?_, ?_, ?_⟩, rfl⟩
  · rw [map_name_of_resolve all]
    exact hv.fields
  · show isKeyKind (fields.get key).kind = true
    rw [keyKind]
    exact hkind
  · show (fields.get key).isPersisted = true
    rw [keyPersisted, hpersisted]
    rfl
  · exact role (p := fun k => isTimeKind k = true) hcreated hv.created
  · exact role (p := fun k => isTimeKind k = true) hupdated hv.updated
  · exact role (p := fun k => k = .bool) hsoftDelete hv.softDelete
  · intro hdelete
    have exposed : r.operations.contains .delete = true := by
      have := List.contains_iff_mem.mp hdelete
      exact (List.mem_filter.mp this).2
    cases hs : softDelete with
    | some i => rfl
    | none =>
      have hnone : r.softDelete = none := by
        rw [← optionalIndexIn_eq_ok hsoftDelete, hs]
        rfl
      rw [hv.deletable hnone] at exposed
      exact absurd exposed (by simp)

end Descriptor

/-- Where names do not repeat, a name stands for the one field that has it. -/
theorem Schema.index?_eq_some_iff {s : Schema} (hs : s.Sound) {name : String}
    {i : Fin s.fields.length} : s.index? name = some i ↔ (s.fields.get i).name = name :=
  Descriptor.findFinIdx?_eq_some_iff hs.fields

namespace Registry

theorem Sound.eq_of_name {reg : Registry} (h : reg.Sound) {s s' : Schema} (hs : s ∈ reg.schemas)
    (hs' : s' ∈ reg.schemas) (same : s.name = s'.name) : s = s' :=
  List.inj_on_of_nodup_map h.names hs hs' same

/-- **A resolved registry is sound.** -/
theorem sound_of_resolve {d : Descriptor} {reg : Registry} (h : d.resolve = .ok reg) :
    reg.Sound := by
  unfold Descriptor.resolve at h
  obtain ⟨hcheck, h⟩ := seq_eq_ok.mp h
  obtain ⟨schemas, hschemas, h⟩ := bind_eq_ok.mp h
  obtain rfl := pure_eq_ok.mp h
  have checked : Descriptor.checkResources [] d.resources = .ok () := by
    unfold Descriptor.check at hcheck
    split at hcheck
    · exact absurd hcheck (by simp)
    · exact hcheck
  obtain ⟨valid, names, -⟩ := Descriptor.checkResources_eq_ok_iff.mp checked
  have all := mapM_eq_ok.mp hschemas
  have sound : List.Forall₂ (fun r s => s.Sound ∧ s.name = r.name) d.resources schemas :=
    ((List.forall₂_and_left _ _).mpr ⟨valid, all⟩).imp fun _ _ h =>
      Descriptor.Resource.resolve_sound h.1 h.2
  constructor
  · intro s hs
    obtain ⟨r, -, h, -⟩ := exists_of_forall₂ sound hs
    exact h
  · show (schemas.map (·.name)).Nodup
    rw [map_eq_of_forall₂ (sound.imp fun _ _ h => h.2)]
    exact names

end Registry

/-- A schema that comes of a descriptor document. -/
def Schema.Resolved (s : Schema) : Prop :=
  ∃ (d : Descriptor) (reg : Registry), d.resolve = .ok reg ∧ s ∈ reg.schemas

theorem Schema.Resolved.sound {s : Schema} (h : s.Resolved) : s.Sound := by
  obtain ⟨d, reg, hreg, hs⟩ := h
  exact (Registry.sound_of_resolve hreg).schemas s hs

/-! ## A registry of notes

One resource, resolved. The notes have a hidden field and every role that a field can play. -/

/-- A field as the descriptor of notes declares it. -/
def noteField (name : String) (kind : Kind) (json merge : Option String) : Descriptor.Field where
  name := name
  kind := kind
  json := json
  column := none
  omitEmpty := false
  validate := none
  merge := merge

/-- The descriptor of notes: their titles may be changed, and their owners are not shown. -/
def notes : Descriptor where
  resources := [{
    name := "note"
    collection := none
    primaryKey := "id"
    autoKey := true
    created := some "made"
    updated := some "changed"
    softDelete := some "gone"
    operations := Operation.all
    fields := [noteField "id" .int none none, noteField "title" .string none (some "true"),
      noteField "owner" .string (some "-") none, noteField "made" .int none none,
      noteField "changed" .int none none, noteField "gone" .bool none none] }]

/-- A field of a note. -/
def noteColumn (name : String) (kind : Kind) (key : Option String) (mergeable : Option Bool) :
    Field where
  name := name
  kind := kind
  jsonKey := key
  column := some name
  omitEmpty := false
  tag := ""
  rules := []
  mergeable := mergeable

/-- The schema of notes. -/
def note : Schema where
  name := "note"
  collection := "note"
  fields := [noteColumn "id" .int (some "id") none,
    noteColumn "title" .string (some "title") (some true), noteColumn "owner" .string none none,
    noteColumn "made" .int (some "made") none, noteColumn "changed" .int (some "changed") none,
    noteColumn "gone" .bool (some "gone") none]
  primaryKey := ⟨0, by decide⟩
  autoKey := true
  created := some ⟨3, by decide⟩
  updated := some ⟨4, by decide⟩
  softDelete := some ⟨5, by decide⟩
  operations := Operation.all

theorem notes_resolve : notes.resolve = .ok ⟨[note]⟩ := by cbv

theorem resolved_note : note.Resolved := ⟨notes, ⟨[note]⟩, notes_resolve, List.mem_singleton_self _⟩

end Registrar
