import Registrar.Proofs.Resolving

/-!
# Which descriptors are accepted

A descriptor is first checked and then resolved, and the two passes look at it in different ways:
the check looks fields up by name, trims columns and passes over roles that are not given, while
resolving reads the rules and looks the roles up once more, by index, among the fields it has
built. What a descriptor must be like to pass both is said here by its declarations alone
(`Descriptor.Acceptable`), and so is what comes of it (`Describes`).

* `Descriptor.Resource.resolve_eq_ok_iff`: a resource resolves to the schema that it describes.
* `Descriptor.exists_resolve_iff`: exactly the acceptable descriptors resolve.
* `Descriptor.fails_resolve`: what passes the check can fail only by a tag that cannot be read.
* `Entries.get?_ofPairs`: where keys repeat, the last one stays; names in a registry do not.
* **`Descriptor.resolve_exact`**: all of it, with how names are looked up afterwards.
-/

namespace Registrar

/-! ## Mappings of names -/

namespace Entries

variable {α : Type}

/-- Of pairs with one key the last one stays. -/
theorem get?_ofPairs (pairs : List (String × α)) (k : String) :
    get? (ofPairs pairs) k = (pairs.reverse.find? (·.1 = k)).map Prod.snd := by
  have fold : ∀ (pairs : List (String × α)) (m : Entries α),
      get? (pairs.foldl (fun m e => put m e.1 e.2) m) k =
        ((pairs.reverse.find? (·.1 = k)).map Prod.snd).or (get? m k) := by
    intro pairs
    induction pairs with
    | nil => exact fun m => rfl
    | cons e rest ih =>
      intro m
      rw [List.foldl_cons, ih, get?_put, List.reverse_cons, List.find?_append]
      cases rest.reverse.find? (·.1 = k) with
      | some e' => rfl
      | none => by_cases he : e.1 = k <;> simp [he]
  rw [ofPairs, fold]
  exact Option.or_none

end Entries

/-- Among members with different keys a key finds the one that has it. -/
theorem find?_eq_some_iff_of_nodup {α : Type} {key : α → String} {l : List α}
    (hn : (l.map key).Nodup) {k : String} {a : α} :
    l.find? (key · = k) = some a ↔ a ∈ l ∧ key a = k := by
  constructor
  · intro h
    exact ⟨List.mem_of_find?_eq_some h, by simpa using List.find?_some h⟩
  · rintro ⟨ha, rfl⟩
    have found : (l.find? (key · = key a)).isSome := by
      rw [List.find?_isSome]
      exact ⟨a, ha, by simp⟩
    obtain ⟨b, hb⟩ := Option.isSome_iff_exists.mp found
    have same : key b = key a := by simpa using List.find?_some hb
    rw [hb, List.inj_on_of_nodup_map hn (List.mem_of_find?_eq_some hb) ha same]

/-- Where no key repeats, it does not matter which of two members with one key would stay. -/
theorem get?_ofPairs_of_nodup {α β : Type} {key : α → String} {val : α → β} {l : List α}
    (hn : (l.map key).Nodup) (k : String) :
    Entries.get? (Entries.ofPairs (l.map fun a => (key a, val a))) k =
      (l.find? (key · = k)).map val := by
  rw [Entries.get?_ofPairs, ← List.map_reverse, List.find?_map, Option.map_map]
  have reversed : (l.reverse.map key).Nodup := by
    rw [List.map_reverse]
    exact List.nodup_reverse.mpr hn
  have same : l.reverse.find? (key · = k) = l.find? (key · = k) := by
    refine Option.ext fun a => ?_
    rw [find?_eq_some_iff_of_nodup hn, find?_eq_some_iff_of_nodup reversed, List.mem_reverse]
  exact congrArg (Option.map val) same

namespace Registry

/-- The schemas by their names, as they are collected. -/
def byName (reg : Registry) : Entries Schema :=
  .ofPairs (reg.schemas.map fun s => (s.name, s))

end Registry

namespace Schema

/-- The indexes of the fields by their names, as they are collected. -/
def byName (s : Schema) : Entries (Fin s.fields.length) :=
  .ofPairs (s.indexed.map fun e => (e.2.name, e.1))

end Schema

namespace Descriptor

/-! ## What is accepted -/

namespace Field

/-- The rules of a field can be read. -/
def IsReadable (f : Field) : Prop := ∃ rules, Rule.parseTag (f.validate.getD "") = .ok rules

end Field

namespace Resource

/-- A field with a name is declared, and it has a property. -/
def Names (r : Resource) (name : String) (p : Field → Prop) : Prop :=
  ∃ f ∈ r.fields, f.name = name ∧ p f

/-- What a resource must declare to be accepted. -/
structure Acceptable (r : Resource) : Prop where
  fields : (r.fields.map (·.name)).Nodup
  primaryKey : r.Names r.primaryKey fun f => f.column.map Text.trim ≠ some "-" ∧
    (f.kind = .int ∨ f.kind = .uint ∨ f.kind = .string)
  timestamps : ∀ name, r.created = some name ∨ r.updated = some name →
    r.Names name fun f => f.kind = .int ∨ f.kind = .uint
  softDelete : ∀ name, r.softDelete = some name → r.Names name fun f => f.kind = .bool
  deletable : .delete ∈ r.operations → r.softDelete ≠ none
  rules : ∀ f ∈ r.fields, f.IsReadable

end Resource

/-- What a descriptor must declare to be accepted. -/
structure Acceptable (d : Descriptor) : Prop where
  resources : d.resources ≠ []
  names : (d.resources.map (·.name)).Nodup
  each : ∀ r ∈ d.resources, r.Acceptable

theorem isKeyKind_iff {k : Kind} : isKeyKind k = true ↔ k = .int ∨ k = .uint ∨ k = .string := by
  cases k <;> decide

theorem isTimeKind_iff {k : Kind} : isTimeKind k = true ↔ k = .int ∨ k = .uint := by
  cases k <;> decide

namespace Resource

variable {r : Resource} {name : String}

theorem field?_eq_some_iff (hn : (r.fields.map (·.name)).Nodup) {f : Field} :
    r.field? name = some f ↔ f ∈ r.fields ∧ f.name = name := find?_eq_some_iff_of_nodup hn

theorem exists_field?_iff (hn : (r.fields.map (·.name)).Nodup) {p : Field → Prop} :
    (∃ f, r.field? name = some f ∧ p f) ↔ r.Names name p := by
  refine exists_congr fun f => ?_
  rw [field?_eq_some_iff hn, and_assoc]

/-- **A resource is acceptable** iff it passes the check and its rules can be read. -/
theorem acceptable_iff : r.Acceptable ↔ r.Valid ∧ ∀ f ∈ r.fields, f.IsReadable := by
  have persisted : ∀ f : Field, f.isUnpersisted = false ↔ f.column.map Text.trim ≠ some "-" :=
    fun f => decide_eq_false_iff_not
  constructor
  · rintro ⟨hn, key, times, flag, deletable, rules⟩
    refine ⟨⟨hn, ?_, fun name h => ?_, fun name h => ?_, fun name h => ?_, fun none => ?_⟩, rules⟩
    · simp only [persisted, isKeyKind_iff]
      exact (exists_field?_iff hn).mpr key
    · simp only [isTimeKind_iff]
      exact (exists_field?_iff hn).mpr (times name (.inl h))
    · simp only [isTimeKind_iff]
      exact (exists_field?_iff hn).mpr (times name (.inr h))
    · exact (exists_field?_iff hn).mpr (flag name h)
    · rw [← Bool.not_eq_true, List.contains_iff_mem]
      exact fun exposed => deletable exposed none
  · rintro ⟨⟨hn, key, created, updated, flag, deletable⟩, rules⟩
    simp only [persisted, isKeyKind_iff] at key
    simp only [isTimeKind_iff] at created updated
    refine ⟨hn, (exists_field?_iff hn).mp key, ?_,
      fun name h => (exists_field?_iff hn).mp (flag name h), fun exposed none => ?_, rules⟩
    · rintro name (h | h)
      · exact (exists_field?_iff hn).mp (created name h)
      · exact (exists_field?_iff hn).mp (updated name h)
    · have hidden := deletable none
      rw [List.contains_iff_mem.mpr exposed] at hidden
      exact absurd hidden (by simp)

end Resource

theorem check_eq_ok_iff {d : Descriptor} : d.check = .ok () ↔
    d.resources ≠ [] ∧ (d.resources.map (·.name)).Nodup ∧ ∀ r ∈ d.resources, r.Valid := by
  unfold check
  split
  · rename_i none
    simp [List.isEmpty_iff.mp none]
  · rename_i some
    have given : d.resources ≠ [] := fun none => some (List.isEmpty_iff.mpr none)
    rw [checkResources_eq_ok_iff]
    constructor
    · rintro ⟨valid, names, -⟩
      exact ⟨given, names, valid⟩
    · rintro ⟨-, names, valid⟩
      exact ⟨valid, names, fun _ _ => List.not_mem_nil⟩

/-! ## What comes of a descriptor -/

/-- A field of a schema is what its declaration says. -/
structure Field.Describes (f : Field) (g : Registrar.Field) : Prop where
  name : g.name = f.name
  kind : g.kind = f.kind
  jsonKey : g.jsonKey = Key.choose f.json (Key.camel f.name)
  column : g.column = Key.choose f.column f.name
  omitEmpty : g.omitEmpty = f.omitEmpty
  tag : g.tag = f.validate.getD ""
  rules : Rule.parseTag g.tag = .ok g.rules
  mergeable : g.mergeable = mergeFlag f.merge

/-- A schema is what its resource says: its fields are the declared ones, one for each and in order,
and every role is played by the field that is named for it. -/
structure Resource.Describes (r : Resource) (s : Schema) : Prop where
  name : s.name = r.name
  collection : s.collection = r.collection.getD r.name
  fields : List.Forall₂ Field.Describes r.fields s.fields
  primaryKey : s.keyField.name = r.primaryKey
  autoKey : s.autoKey = r.autoKey
  created : s.created.map (fun i => (s.fields.get i).name) = r.created
  updated : s.updated.map (fun i => (s.fields.get i).name) = r.updated
  softDelete : s.softDelete.map (fun i => (s.fields.get i).name) = r.softDelete
  operations : s.operations = Operation.all.filter r.operations.contains

/-- **A field resolves** to what its declaration says. -/
theorem Field.resolve_eq_ok_iff {resource : String} {f : Field} {g : Registrar.Field} :
    f.resolve resource = .ok g ↔ f.Describes g := by
  unfold Field.resolve
  dsimp only
  cases hrules : Rule.parseTag (f.validate.getD "") with
  | error cause =>
    refine ⟨fun h => absurd h (by simp), fun h => ?_⟩
    have read := h.rules
    rw [h.tag, hrules] at read
    exact absurd read (by simp)
  | ok rules =>
    constructor
    · intro h
      obtain rfl := Except.ok.inj h
      exact ⟨rfl, rfl, rfl, rfl, rfl, rfl, hrules, rfl⟩
    · rintro ⟨name, kind, jsonKey, column, omitEmpty, tag, read, mergeable⟩
      rw [tag, hrules] at read
      cases g
      simp_all

theorem Field.exists_resolve {resource : String} {f : Field} (h : f.IsReadable) :
    ∃ g, f.resolve resource = .ok g := by
  obtain ⟨rules, hrules⟩ := h
  unfold Field.resolve
  dsimp only
  rw [hrules]
  exact ⟨_, rfl⟩

/-- A field fails to resolve by its tag only. -/
theorem Field.fails_resolve {resource : String} {f : Field} :
    Fails (fun fault => ∃ cause, Rule.parseTag (f.validate.getD "") = .error cause ∧
      fault = .invalidRule resource f.name cause) (f.resolve resource) := by
  unfold Field.resolve
  dsimp only
  cases hrules : Rule.parseTag (f.validate.getD "") with
  | error cause => exact fails_error ⟨cause, rfl, rfl⟩
  | ok rules => exact fails_ok _

section Roles

variable {resource name : String} {fields : List Registrar.Field}

theorem indexIn_eq_ok_iff (hn : (fields.map (·.name)).Nodup) {i : Fin fields.length} :
    indexIn resource fields name = .ok i ↔ (fields.get i).name = name := by
  rw [← findFinIdx?_eq_some_iff hn]
  unfold indexIn
  cases fields.findFinIdx? (·.name = name) <;> simp

theorem optionalIndexIn_eq_ok_iff (hn : (fields.map (·.name)).Nodup) {given : Option String}
    {o : Option (Fin fields.length)} : optionalIndexIn resource fields given = .ok o ↔
      o.map (fun i => (fields.get i).name) = given := by
  constructor
  · exact optionalIndexIn_eq_ok
  · rintro rfl
    cases o with
    | none => rfl
    | some i => exact map_eq_ok.mpr ⟨i, (indexIn_eq_ok_iff hn).mpr rfl, rfl⟩

/-- A name of a field has an index. -/
theorem exists_indexIn_eq_ok (resource : String) (h : name ∈ fields.map (·.name)) :
    ∃ i, indexIn resource fields name = .ok i := by
  obtain ⟨g, hg, named⟩ := List.mem_map.mp h
  have found : (fields.findFinIdx? (·.name = name)).isSome := by
    rw [List.isSome_findFinIdx?, List.any_eq_true]
    exact ⟨g, hg, by simpa using named⟩
  obtain ⟨i, hi⟩ := Option.isSome_iff_exists.mp found
  exact ⟨i, by rw [indexIn, hi]⟩

theorem exists_optionalIndexIn_eq_ok (resource : String) {given : Option String}
    (h : ∀ name, given = some name → name ∈ fields.map (·.name)) :
    ∃ o, optionalIndexIn resource fields given = .ok o := by
  cases given with
  | none => exact ⟨none, rfl⟩
  | some name =>
    obtain ⟨i, hi⟩ := exists_indexIn_eq_ok resource (h name rfl)
    exact ⟨some i, map_eq_ok.mpr ⟨i, hi, rfl⟩⟩

end Roles

namespace Resource

variable {r : Resource} {s : Schema}

theorem Names.mem {name : String} {p : Field → Prop} (h : r.Names name p) :
    name ∈ r.fields.map (·.name) := by
  obtain ⟨f, hf, named, -⟩ := h
  exact List.mem_map.mpr ⟨f, hf, named⟩

theorem map_name_of_describes {fs : List Field} {gs : List Registrar.Field}
    (h : List.Forall₂ Field.Describes fs gs) : gs.map (·.name) = fs.map (·.name) :=
  map_eq_of_forall₂ (h.imp fun _ _ hf => hf.name)

/-- **A resource resolves** to the schema that it describes. -/
theorem resolve_eq_ok_iff (hn : (r.fields.map (·.name)).Nodup) :
    r.resolve = .ok s ↔ r.Describes s := by
  unfold resolve
  constructor
  · intro h
    obtain ⟨fields, hfields, h⟩ := bind_eq_ok.mp h
    obtain ⟨key, hkey, h⟩ := bind_eq_ok.mp h
    obtain ⟨created, hcreated, h⟩ := bind_eq_ok.mp h
    obtain ⟨updated, hupdated, h⟩ := bind_eq_ok.mp h
    obtain ⟨softDelete, hsoftDelete, h⟩ := bind_eq_ok.mp h
    obtain rfl := pure_eq_ok.mp h
    exact ⟨rfl, rfl, (mapM_eq_ok.mp hfields).imp fun _ _ => Field.resolve_eq_ok_iff.mp,
      indexIn_eq_ok hkey, rfl, optionalIndexIn_eq_ok hcreated, optionalIndexIn_eq_ok hupdated,
      optionalIndexIn_eq_ok hsoftDelete, rfl⟩
  · rintro ⟨name, collection, hfields, hkey, autoKey, hcreated, hupdated, hsoftDelete, operations⟩
    obtain ⟨_, _, fields, key, _, created, updated, softDelete, _⟩ := s
    obtain rfl := name
    obtain rfl := collection
    obtain rfl := autoKey
    obtain rfl := operations
    have hn' : (fields.map (·.name)).Nodup := by
      rw [map_name_of_describes hfields]
      exact hn
    have all : r.fields.mapM (Field.resolve r.name) = .ok fields :=
      mapM_eq_ok.mpr (hfields.imp fun _ _ => Field.resolve_eq_ok_iff.mpr)
    exact bind_eq_ok.mpr ⟨fields, all,
      bind_eq_ok.mpr ⟨key, (indexIn_eq_ok_iff hn').mpr hkey,
      bind_eq_ok.mpr ⟨created, (optionalIndexIn_eq_ok_iff hn').mpr hcreated,
      bind_eq_ok.mpr ⟨updated, (optionalIndexIn_eq_ok_iff hn').mpr hupdated,
      bind_eq_ok.mpr ⟨softDelete, (optionalIndexIn_eq_ok_iff hn').mpr hsoftDelete, rfl⟩⟩⟩⟩⟩

/-- **The roles of a valid resource are found** among its fields once these are resolved, so that
it can fail only by a tag. -/
theorem resolve_of_valid (hv : r.Valid) {fields : List Registrar.Field}
    (hfields : r.fields.mapM (Field.resolve r.name) = .ok fields) : ∃ s, r.resolve = .ok s := by
  have names := map_name_of_resolve (mapM_eq_ok.mp hfields)
  have given : ∀ {name : String} {p : Field → Prop},
      (∃ f, r.field? name = some f ∧ p f) → name ∈ fields.map (·.name) := fun h => by
    rw [names]
    exact ((exists_field?_iff hv.fields).mp h).mem
  obtain ⟨key, hkey⟩ := exists_indexIn_eq_ok r.name (given hv.primaryKey)
  obtain ⟨created, hcreated⟩ := exists_optionalIndexIn_eq_ok r.name
    fun name h => given (hv.created name h)
  obtain ⟨updated, hupdated⟩ := exists_optionalIndexIn_eq_ok r.name
    fun name h => given (hv.updated name h)
  obtain ⟨softDelete, hsoftDelete⟩ := exists_optionalIndexIn_eq_ok r.name
    fun name h => given (hv.softDelete name h)
  exact ⟨_, bind_eq_ok.mpr ⟨fields, hfields, bind_eq_ok.mpr ⟨key, hkey,
    bind_eq_ok.mpr ⟨created, hcreated, bind_eq_ok.mpr ⟨updated, hupdated,
    bind_eq_ok.mpr ⟨softDelete, hsoftDelete, rfl⟩⟩⟩⟩⟩⟩

/-- What is wrong with a tag of a field. -/
def IsUnreadable (r : Resource) (fault : Fault) : Prop :=
  ∃ f ∈ r.fields, ∃ cause, Rule.parseTag (f.validate.getD "") = .error cause ∧
    fault = .invalidRule r.name f.name cause

/-- **A valid resource fails by a tag** if it fails. -/
theorem fails_resolve (hv : r.Valid) : Fails r.IsUnreadable r.resolve := by
  intro fault failed
  cases hfields : r.fields.mapM (Field.resolve r.name) with
  | ok fields =>
    obtain ⟨s, hs⟩ := resolve_of_valid hv hfields
    exact absurd (hs.symm.trans failed) (by simp)
  | error e =>
    have tags : Fails r.IsUnreadable (r.fields.mapM (Field.resolve r.name)) :=
      fails_mapM fun f hf e h => ⟨f, hf, Field.fails_resolve e h⟩
    unfold resolve at failed
    rw [hfields] at failed
    obtain rfl : e = fault := Except.error.inj failed
    exact tags e hfields

theorem exists_resolve (h : r.Acceptable) : ∃ s, r.resolve = .ok s := by
  obtain ⟨valid, rules⟩ := acceptable_iff.mp h
  obtain ⟨fields, hfields⟩ : ∃ fields, r.fields.mapM (Field.resolve r.name) = .ok fields :=
    exists_mapM_eq_ok fun f hf => Field.exists_resolve (rules f hf)
  exact resolve_of_valid valid hfields

end Resource

variable {d : Descriptor} {reg : Registry}

/-- **A descriptor resolves** to a registry iff it passes the check and each of its resources
resolves to the schema in its place. -/
theorem resolve_eq_ok_iff : d.resolve = .ok reg ↔
    d.check = .ok () ∧ List.Forall₂ (fun r s => r.resolve = .ok s) d.resources reg.schemas := by
  unfold resolve
  rw [seq_eq_ok, bind_eq_ok]
  refine and_congr_right fun _ => ?_
  constructor
  · rintro ⟨schemas, hschemas, h⟩
    obtain rfl := pure_eq_ok.mp h
    exact mapM_eq_ok.mp hschemas
  · exact fun all => ⟨reg.schemas, mapM_eq_ok.mpr all, rfl⟩

theorem describes_of_resolve (h : d.resolve = .ok reg) :
    List.Forall₂ Resource.Describes d.resources reg.schemas := by
  obtain ⟨checked, all⟩ := resolve_eq_ok_iff.mp h
  obtain ⟨-, -, valid⟩ := check_eq_ok_iff.mp checked
  exact ((List.forall₂_and_left _ _).mpr ⟨valid, all⟩).imp fun _ _ h =>
    (Resource.resolve_eq_ok_iff h.1.fields).mp h.2

/-- **Exactly the acceptable descriptors resolve.** -/
theorem exists_resolve_iff : (∃ reg, d.resolve = .ok reg) ↔ d.Acceptable := by
  constructor
  · rintro ⟨reg, h⟩
    obtain ⟨given, names, valid⟩ := check_eq_ok_iff.mp (resolve_eq_ok_iff.mp h).1
    refine ⟨given, names, fun r hr => Resource.acceptable_iff.mpr ⟨valid r hr, fun f hf => ?_⟩⟩
    obtain ⟨s, -, described⟩ := exists_of_forall₂ (describes_of_resolve h).flip hr
    obtain ⟨g, -, hg⟩ := exists_of_forall₂ described.fields.flip hf
    exact ⟨g.rules, hg.tag ▸ hg.rules⟩
  · rintro ⟨given, names, each⟩
    have valid : ∀ r ∈ d.resources, r.Valid := fun r hr =>
      (Resource.acceptable_iff.mp (each r hr)).1
    obtain ⟨schemas, hschemas⟩ := exists_mapM_eq_ok fun r hr => Resource.exists_resolve (each r hr)
    exact ⟨⟨schemas⟩, resolve_eq_ok_iff.mpr
      ⟨check_eq_ok_iff.mpr ⟨given, names, valid⟩, mapM_eq_ok.mp hschemas⟩⟩

/-! ### What is refused -/

/-- What looking a role up among resolved fields would fail with. -/
def Fault.IsDangling (fault : Fault) : Prop :=
  ∃ resource field, fault = .missingReference .field resource field

namespace Resource

variable {r : Resource}

theorem fails_reference {role : Role} (h : role ≠ .field) (name : String) :
    Fails (¬ ·.IsDangling) (r.reference role name) := by
  unfold reference
  split
  · exact fails_ok _
  · refine fails_error ?_
    rintro ⟨_, _, same⟩
    exact h (Fault.missingReference.inj same).1

theorem fails_checkTimestamp {role : Role} (h : role ≠ .field) (time : Option String) :
    Fails (¬ ·.IsDangling) (r.checkTimestamp role time) := by
  cases time with
  | none => exact fails_ok _
  | some name =>
    refine (fails_reference h name).bind fun f _ => ?_
    split
    · exact fails_error (by rintro ⟨_, _, ⟨⟩⟩)
    · exact fails_ok _

/-- **The check of a resource** names the role of what it misses. -/
theorem fails_check (r : Resource) : Fails (¬ ·.IsDangling) r.check := by
  have fields : Fails (¬ ·.IsDangling) r.checkFields := by
    unfold checkFields
    split
    · exact fails_error (by rintro ⟨_, _, ⟨⟩⟩)
    · exact fails_ok _
  have key : Fails (¬ ·.IsDangling) r.checkPrimaryKey := by
    refine (fails_reference (by decide) _).bind fun f _ => ?_
    cases f.isUnpersisted <;> cases isKeyKind f.kind
    · exact fails_error (by rintro ⟨_, _, ⟨⟩⟩)
    · exact fails_ok _
    · exact fails_error (by rintro ⟨_, _, ⟨⟩⟩)
    · exact fails_error (by rintro ⟨_, _, ⟨⟩⟩)
  have flag : Fails (¬ ·.IsDangling) r.checkSoftDelete := by
    unfold checkSoftDelete
    split
    · refine (fails_reference (by decide) _).bind fun f _ => ?_
      split
      · exact fails_error (by rintro ⟨_, _, ⟨⟩⟩)
      · exact fails_ok _
    · split
      · exact fails_error (by rintro ⟨_, _, ⟨⟩⟩)
      · exact fails_ok _
  exact fields.bind fun _ _ => key.bind fun _ _ => (fails_checkTimestamp (by decide) _).bind
    fun _ _ => (fails_checkTimestamp (by decide) _).bind fun _ _ => flag

end Resource

theorem fails_checkResources : ∀ (rs : List Resource) (seen : List String),
    Fails (¬ ·.IsDangling) (checkResources seen rs)
  | [], _ => fails_ok _
  | r :: rest, seen => by
    unfold checkResources
    split
    · exact fails_error (by rintro ⟨_, _, ⟨⟩⟩)
    · exact r.fails_check.bind fun _ _ => fails_checkResources rest _

theorem fails_check (d : Descriptor) : Fails (¬ ·.IsDangling) d.check := by
  unfold check
  split
  · exact fails_error (by rintro ⟨_, _, ⟨⟩⟩)
  · exact fails_checkResources _ _

/-- **A descriptor is refused** by the check or by a tag that cannot be read. -/
theorem fails_resolve (d : Descriptor) :
    Fails (fun fault => d.check = .error fault ∨ ∃ r ∈ d.resources, r.IsUnreadable fault)
      d.resolve := by
  unfold resolve
  refine Fails.bind (fun fault failed => .inl failed) fun _ checked => ?_
  obtain ⟨-, -, valid⟩ := check_eq_ok_iff.mp checked
  refine Fails.bind (fails_mapM fun r hr fault failed => ?_) fun _ _ => fails_ok _
  exact .inr ⟨r, hr, Resource.fails_resolve (valid r hr) fault failed⟩

/-- The roles that the check has found are found again. -/
theorem resolve_ne_missingReference (d : Descriptor) (resource field : String) :
    d.resolve ≠ .error (.missingReference .field resource field) := by
  intro failed
  rcases d.fails_resolve _ failed with refused | ⟨r, -, f, -, cause, -, same⟩
  · exact d.fails_check _ refused ⟨resource, field, rfl⟩
  · exact absurd same (by simp)

end Descriptor

/-! ## Names in a registry -/

namespace Registry

variable {reg : Registry} {s : Schema} {name : String}

theorem get?_eq_some_iff (h : reg.Sound) :
    reg.get? name = some s ↔ s ∈ reg.schemas ∧ s.name = name := find?_eq_some_iff_of_nodup h.names

theorem get?_byName (h : reg.Sound) (name : String) : reg.byName.get? name = reg.get? name :=
  (get?_ofPairs_of_nodup h.names name).trans Option.map_id'

end Registry

namespace Schema

variable {s : Schema}

theorem get?_byName (h : s.Sound) (name : String) : s.byName.get? name = s.index? name := by
  have names : ((List.finRange s.fields.length).map fun i => (s.fields.get i).name).Nodup := by
    have same := congrArg (List.map Field.name) (List.map_get_finRange s.fields)
    rw [List.map_map] at same
    exact same.symm ▸ h.fields
  unfold byName indexed
  rw [List.map_map]
  refine (get?_ofPairs_of_nodup names name).trans (Option.ext fun i => ?_)
  rw [Option.map_id', find?_eq_some_iff_of_nodup names, index?_eq_some_iff h]
  exact and_iff_right (List.mem_finRange i)

end Schema

namespace Descriptor

/-- **Resolving is exact.** A descriptor resolves iff its declarations are acceptable, and what a
role names is never missed among the resolved fields. The schemas of the registry are then what the
resources describe, one for each and in order, and each is sound: the fields that its indexes stand
for are of the kinds of their roles, and its key has a column. A name finds the schema that has it
and an index the field that has it, however the names were collected. -/
theorem resolve_exact (d : Descriptor) :
    ((∃ reg, d.resolve = .ok reg) ↔ d.Acceptable) ∧
    (∀ resource field, d.resolve ≠ .error (.missingReference .field resource field)) ∧
    ∀ reg, d.resolve = .ok reg →
      List.Forall₂ Resource.Describes d.resources reg.schemas ∧
      (∀ name s, reg.get? name = some s ↔ s ∈ reg.schemas ∧ s.name = name) ∧
      (∀ name, reg.get? name = none ↔ ∀ r ∈ d.resources, r.name ≠ name) ∧
      (∀ name, reg.byName.get? name = reg.get? name) ∧
      ∀ s ∈ reg.schemas, s.Sound ∧
        (∀ name i, s.index? name = some i ↔ (s.fields.get i).name = name) ∧
        ∀ name, s.byName.get? name = s.index? name := by
  refine ⟨exists_resolve_iff, d.resolve_ne_missingReference, fun reg h => ?_⟩
  have sound := Registry.sound_of_resolve h
  have described := describes_of_resolve h
  refine ⟨described, fun name s => Registry.get?_eq_some_iff sound, fun name => ?_,
    Registry.get?_byName sound, fun s hs => ?_⟩
  · have names : reg.schemas.map (·.name) = d.resources.map (·.name) :=
      map_eq_of_forall₂ (described.imp fun _ _ h => h.name)
    have missing : reg.get? name = none ↔ name ∉ d.resources.map (·.name) := by
      rw [← names]
      simp [Registry.get?, List.find?_eq_none]
    rw [missing]
    simp
  · have hs := sound.schemas s hs
    exact ⟨hs, fun name i => Schema.index?_eq_some_iff hs, Schema.get?_byName hs⟩

/-! ### Drafts with tokens -/

/-- The descriptor of drafts. Their tokens have no column, as what is given for one is trimmed. -/
def drafts : Descriptor where
  resources := [{
    name := "draft"
    collection := some "paper"
    primaryKey := "code"
    autoKey := false
    created := some "made"
    updated := none
    softDelete := none
    operations := [.read, .create, .read]
    fields := [noteField "code" .string none none, noteField "made" .uint none none,
      { noteField "token" .string (some "-") (some " true ") with
        column := some " - "
        validate := some "nonzero | in(a,b)" }] }]

/-- The schema of drafts. -/
def draft : Schema where
  name := "draft"
  collection := "paper"
  fields := [noteColumn "code" .string (some "code") none,
    noteColumn "made" .uint (some "made") none,
    { noteColumn "token" .string none (some true) with
      column := none
      tag := "nonzero | in(a,b)"
      rules := [.test .nonzero, .test (.oneOf ["a", "b"])] }]
  primaryKey := 0
  autoKey := false
  created := some 1
  updated := none
  softDelete := none
  operations := [.read, .create]

theorem resolve_exact_drafts :
    drafts.resolve = .ok ⟨[draft]⟩ ∧ drafts.Acceptable ∧
    (⟨[draft]⟩ : Registry).get? "draft" = some draft ∧
    (⟨[draft]⟩ : Registry).get? "paper" = none ∧
    draft.index? "token" = some ⟨2, by decide⟩ ∧ draft.byName.get? "token" = some ⟨2, by decide⟩ ∧
    draft.keyField.isPersisted = true := by
  have resolved : drafts.resolve = .ok ⟨[draft]⟩ := by cbv
  obtain ⟨accepted, -, given⟩ := resolve_exact drafts
  obtain ⟨-, found, missed, -, each⟩ := given _ resolved
  obtain ⟨sound, index, names⟩ := each draft (List.mem_singleton_self _)
  have token : draft.index? "token" = some ⟨2, by decide⟩ := (index "token" _).mpr rfl
  refine ⟨resolved, accepted.mp ⟨_, resolved⟩, ?_, ?_, token, ?_, sound.keyPersisted⟩
  · exact (found "draft" draft).mpr ⟨List.mem_singleton_self _, rfl⟩
  · rw [missed]
    intro r hr
    obtain rfl := List.mem_singleton.mp hr
    decide
  · rw [names]
    exact token

end Descriptor

end Registrar
