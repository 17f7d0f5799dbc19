import Registrar.Proofs.Outcomes
import Registrar.Service.Lifecycle
import Registrar.Store.Table

/-!
# Records by index

What each way to make a record of another one does to the value at an index, and which of them
keep a record well typed. Indexes are natural numbers here, so that records of one schema can be
compared without casts.

* `EqOff changed a b`: `b` holds what `a` holds, but for the indexes where `changed` holds. Every
  step of a write (`put`, a merge, a hook, `stored`) is one.
* `WellTyped`: every value is of the kind of its field. It holds of a record that was read from a
  document, and every step keeps it.
-/

namespace Registrar

namespace Schema

/-- Whether the field at an index is declared to change in an update. -/
def IsMergeable (s : Schema) (i : Nat) : Prop :=
  ∃ f, s.fields[i]? = some f ∧ f.mergeable = some true

/-- Whether the field at an index holds the time of the last change. -/
def IsUpdated (s : Schema) (i : Nat) : Prop := s.updated.map Fin.val = some i

/-- Whether the field at an index is the time of creation or of the last change. -/
def IsTime (s : Schema) (i : Nat) : Prop := s.created.map Fin.val = some i ∨ s.IsUpdated i

/-- Whether the field at an index flags a deleted record. -/
def IsSoftDelete (s : Schema) (i : Nat) : Prop := s.softDelete.map Fin.val = some i

/-- Whether what a record holds at an index may change once the record is stored. -/
def Changes (s : Schema) (i : Nat) : Prop := s.IsMergeable i ∨ s.IsUpdated i ∨ s.IsSoftDelete i

theorem getElem?_fields (s : Schema) (i : Fin s.fields.length) :
    s.fields[i.val]? = some (s.fields.get i) := by
  rw [List.get_eq_getElem]
  exact List.getElem?_eq_getElem i.isLt

end Schema

namespace Record

/-! ## Values at an index -/

theorem getElem?_values (r : Record) (i : Fin r.schema.fields.length) :
    r.values[i.val]? = some (r.value i) := by
  unfold value
  rw [List.get_eq_getElem]
  exact List.getElem?_eq_getElem _

theorem getElem?_key (r : Record) : r.values[r.schema.primaryKey.val]? = some r.key :=
  r.getElem?_values r.schema.primaryKey

theorem mem_cells {r : Record} {c : Fin r.schema.fields.length × Field × Value} :
    c ∈ r.cells ↔ ∃ i, c = (i, r.schema.fields.get i, r.value i) := by
  unfold cells Schema.indexed
  simp [eq_comm]

/-- Where there is a field there is a value. -/
theorem exists_getElem?_values (r : Record) {i : Nat} {f : Field}
    (hf : r.schema.fields[i]? = some f) : ∃ v, r.values[i]? = some v := by
  have hi : i < r.values.length := by
    rw [r.length_values]
    exact (List.getElem?_eq_some_iff.mp hf).1
  exact ⟨_, List.getElem?_eq_getElem hi⟩

theorem getElem?_values_eq_none (r : Record) {i : Nat} (hf : r.schema.fields[i]? = none) :
    r.values[i]? = none := by
  rw [List.getElem?_eq_none_iff, r.length_values]
  exact List.getElem?_eq_none_iff.mp hf

/-- Records of one schema with the same value at every index are the same. -/
theorem ext_of_values {r r' : Record} (schema : r'.schema = r.schema)
    (values : ∀ i : Nat, r'.values[i]? = r.values[i]?) : r' = r := by
  have same : r'.values = r.values := List.ext_getElem? values
  cases r
  cases r'
  simp_all

theorem getElem?_put (r : Record) (i : Fin r.schema.fields.length) (v : Value) (j : Nat) :
    (r.put i v).values[j]? = if i.val = j then some v else r.values[j]? := by
  show (r.values.set i v)[j]? = _
  rw [List.getElem?_set]
  split
  · rw [if_pos (by rw [r.length_values]; exact i.isLt)]
  · rfl

theorem key_put (r : Record) (v : Value) : (r.put r.schema.primaryKey v).key = v := by
  have put := r.getElem?_put r.schema.primaryKey v r.schema.primaryKey.val
  rw [if_pos rfl] at put
  exact Option.some.inj ((getElem?_key _).symm.trans put)

theorem getElem?_stored (r : Record) {i : Nat} {f : Field} (hf : r.schema.fields[i]? = some f) :
    r.stored.values[i]? = if f.isPersisted then r.values[i]? else some (.zero f.kind) := by
  obtain ⟨v, hv⟩ := r.exists_getElem?_values hf
  show (List.zipWith _ r.schema.fields r.values)[i]? = _
  rw [List.getElem?_zipWith, hf, hv]
  show some (if f.isPersisted then v else _) = _
  split <;> rfl

/-! ## What a step leaves -/

/-- `b` is a record of the schema of `a` and holds what `a` holds, but for the indexes where
`changed` holds. -/
structure EqOff (changed : Nat → Prop) (a b : Record) : Prop where
  schema : b.schema = a.schema
  values : ∀ i, ¬ changed i → b.values[i]? = a.values[i]?

namespace EqOff

variable {p q : Nat → Prop} {a b c : Record}

theorem refl (p : Nat → Prop) (a : Record) : EqOff p a a := ⟨rfl, fun _ _ => rfl⟩

theorem mono (h : EqOff p a b) (hpq : ∀ i, p i → q i) : EqOff q a b :=
  ⟨h.schema, fun i hi => h.values i fun hp => hi (hpq i hp)⟩

theorem trans (hab : EqOff p a b) (hbc : EqOff p b c) : EqOff p a c :=
  ⟨hbc.schema.trans hab.schema, fun i hi => (hbc.values i hi).trans (hab.values i hi)⟩

theorem symm (h : EqOff p a b) : EqOff p b a :=
  ⟨h.schema.symm, fun i hi => (h.values i hi).symm⟩

/-- The key stays where its index does not change. -/
theorem key (h : EqOff p a b) (hk : ¬ p a.schema.primaryKey.val) : b.key = a.key := by
  have same := h.values _ hk
  have index : b.schema.primaryKey.val = a.schema.primaryKey.val := by rw [h.schema]
  rw [a.getElem?_key, ← index, b.getElem?_key] at same
  exact Option.some.inj same

end EqOff

theorem eqOff_put (r : Record) (i : Fin r.schema.fields.length) (v : Value) :
    EqOff (· = i.val) r (r.put i v) := by
  refine ⟨rfl, fun j hj => ?_⟩
  rw [getElem?_put, if_neg fun h => hj h.symm]

/-! ### Unpersisted values -/

/-- What is not persisted is zero, as in every stored record. -/
def Settled (r : Record) : Prop :=
  ∀ (i : Nat) (f : Field), r.schema.fields[i]? = some f → f.isPersisted = false →
    r.values[i]? = some (.zero f.kind)

theorem settled_stored (r : Record) : r.stored.Settled := by
  intro i f hf hp
  rw [r.getElem?_stored hf, if_neg (by rw [hp]; exact Bool.false_ne_true)]

/-- Storing changes nothing that is zero already. -/
theorem EqOff.stored {p : Nat → Prop} {a b : Record} (h : EqOff p a b) (ha : a.Settled) :
    EqOff p a b.stored := by
  refine ⟨h.schema, fun i hi => ?_⟩
  cases hf : b.schema.fields[i]? with
  | none =>
    rw [b.stored.getElem?_values_eq_none hf,
      a.getElem?_values_eq_none (by rw [← h.schema]; exact hf)]
  | some f =>
    rw [b.getElem?_stored hf]
    cases hp : f.isPersisted with
    | true => exact h.values i hi
    | false => exact (ha i f (by rw [← h.schema]; exact hf) hp).symm

theorem key_stored {r : Record} (h : r.schema.keyField.isPersisted = true) :
    r.stored.key = r.key := by
  have hs := r.getElem?_stored (r.schema.getElem?_fields r.schema.primaryKey)
  rw [if_pos (show (r.schema.fields.get r.schema.primaryKey).isPersisted = true from h),
    r.getElem?_key] at hs
  exact Option.some.inj (r.stored.getElem?_key.symm.trans hs)

/-! ### Setting a field -/

theorem setAt_eq_ok {r r' : Record} {i : Fin r.schema.fields.length} {v : Value} :
    r.setAt i v = .ok r' ↔
      ∃ w, v.coerce? (r.schema.fields.get i).kind = some w ∧ r' = r.put i w := by
  unfold setAt
  simp only
  split
  · rename_i w hw
    rw [hw]
    constructor
    · intro h
      exact ⟨w, rfl, (Except.ok.inj h).symm⟩
    · rintro ⟨w', hw', rfl⟩
      rw [Option.some.inj hw']
  · rename_i hw
    rw [hw]
    constructor
    · intro h
      exact absurd h (by simp)
    · rintro ⟨w', hw', -⟩
      exact absurd hw' (by simp)

/-! ## Well-typed records -/

/-- Every value is of the kind of its field. -/
def WellTyped (r : Record) : Prop :=
  ∀ (i : Nat) (f : Field) (v : Value), r.schema.fields[i]? = some f → r.values[i]? = some v →
    v.HasKind f.kind

theorem WellTyped.key {r : Record} (h : r.WellTyped) : r.key.HasKind r.schema.keyField.kind :=
  h _ _ _ (r.schema.getElem?_fields r.schema.primaryKey) r.getElem?_key

theorem WellTyped.put {r : Record} (h : r.WellTyped) {i : Fin r.schema.fields.length} {v : Value}
    (hv : v.HasKind (r.schema.fields.get i).kind) : (r.put i v).WellTyped := by
  intro j f w hf hw
  rw [getElem?_put] at hw
  split at hw
  · rename_i hij
    obtain rfl := Option.some.inj hw
    have at_i : r.schema.fields[j]? = some (r.schema.fields.get i) := by
      rw [← hij]
      exact r.schema.getElem?_fields i
    rw [← Option.some.inj (at_i.symm.trans hf)]
    exact hv
  · exact h j f w hf hw

theorem WellTyped.stored {r : Record} (h : r.WellTyped) : r.stored.WellTyped := by
  intro i f v hf hv
  rw [r.getElem?_stored hf] at hv
  split at hv
  · exact h i f v hf hv
  · obtain rfl := Option.some.inj hv
    exact Value.hasKind_zero f.kind

theorem wellTyped_blank (s : Schema) : (blank s).WellTyped := by
  intro i f v hf hv
  have zero : (s.fields.map fun f => Value.zero f.kind)[i]? = some v := hv
  rw [List.getElem?_map, show s.fields[i]? = some f from hf] at zero
  obtain rfl := Option.some.inj zero
  exact Value.hasKind_zero f.kind

theorem wellTyped_of_setAt {r r' : Record} {i : Fin r.schema.fields.length} {v : Value}
    (h : r.WellTyped) (hr : r.setAt i v = .ok r') : r'.WellTyped := by
  obtain ⟨w, hw, rfl⟩ := setAt_eq_ok.mp hr
  exact h.put (Value.hasKind_of_coerce? hw)

/-! ### Reading a document -/

theorem hasKind_of_decodeField {members : List (String × Json)} {f : Field} {v : Value}
    (h : decodeField members f = .ok v) : v.HasKind f.kind := by
  unfold decodeField at h
  split at h
  · obtain rfl := Except.ok.inj h
    exact Value.hasKind_zero f.kind
  · split at h
    · obtain rfl := Except.ok.inj h
      exact Value.hasKind_zero f.kind
    · simp only at h
      split at h
      · rename_i w hw
        obtain rfl := Except.ok.inj h
        exact Value.hasKind_of_coerce? hw
      · exact absurd h (by simp)

theorem hasKind_of_decodeFields {members : List (String × Json)} : ∀ {fields : List Field}
    {vs : { vs : List Value // vs.length = fields.length }},
    decodeFields members fields = .ok vs → ∀ (i : Nat) (f : Field) (v : Value),
      fields[i]? = some f → vs.1[i]? = some v → v.HasKind f.kind
  | [], _, _, i, f, v, hf, _ => by simp at hf
  | g :: rest, vs, h, i, f, v, hf, hv => by
    unfold decodeFields at h
    obtain ⟨w, hw, h⟩ := bind_eq_ok.mp h
    obtain ⟨ws, hws, h⟩ := bind_eq_ok.mp h
    obtain rfl := pure_eq_ok.mp h
    cases i with
    | zero =>
      obtain rfl := Option.some.inj hf
      obtain rfl := Option.some.inj hv
      exact hasKind_of_decodeField hw
    | succ i => exact hasKind_of_decodeFields hws i f v hf hv

/-- **A record that was read from a document is well typed.** -/
theorem wellTyped_of_ofJson {s : Schema} {j : Json} {r : Record} (h : ofJson s j = .ok r) :
    r.schema = s ∧ r.WellTyped := by
  unfold ofJson at h
  split at h
  · obtain ⟨vs, hvs, rfl⟩ := map_eq_ok.mp h
    exact ⟨rfl, hasKind_of_decodeFields hvs⟩
  · exact absurd h (by simp)

end Record

end Registrar
