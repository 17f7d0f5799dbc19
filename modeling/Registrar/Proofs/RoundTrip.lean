import Registrar.Proofs.Acceptance
import Registrar.Proofs.Creation
import Registrar.Proofs.WholeFloat

/-!
# Records as documents, and back

A record that was read from a document is written as another one, which may look different: absent
members are written as zeros, null becomes a zero, zeros may be left out, and a whole number may
have become a float. Still it is read as the same record, for what a value is written as conforms to
the kind of its field again, and becomes that value (`Value.returns_of_coerce?`).

* `Value.toJson_ofJson`: a document is written as it was read.
* `Record.get?_toJson`, `Record.get?_project`: the entries of the documents a record is written as.
* `Record.ofJson_toJson`: a record that was read is read again.
* **`Record.read_write_read`**: all of it.
-/

namespace Registrar

/-! ## Values -/

namespace Value

theorem toJson_ofNumber (n : Number) : (ofNumber n).toJson = .number n := by
  cases n with
  | nat n =>
    rw [ofNumber]
    split
    · rename_i small
      have fits : n.toNat < 2 ^ 63 := by unfold Decimal.maxInt64 at small; omega
      have value : (Int64.ofNat n.toNat).toInt = n.toNat := Int64.toInt_ofNat_of_lt fits
      have nonneg : ¬ Int64.ofNat n.toNat < 0 := by
        rw [Int64.lt_iff_toInt_lt, value]
        simp
      have same : (Int64.ofNat n.toNat).toUInt64 = n := by
        rw [Int64.toUInt64_ofNat', UInt64.ofNat_toNat]
      rw [toJson, Number.ofInt64, dif_neg nonneg, same]
    · rfl
  | neg n below => rw [ofNumber, toJson, Number.ofInt64, dif_pos below]
  | float x finite => rw [ofNumber, toJson, Number.ofFloat?, dif_pos finite]

mutual

/-- **A document is written as it was read.** -/
theorem toJson_ofJson : ∀ j : Json, (ofJson j).toJson = j
  | .null | .bool _ | .string _ => rfl
  | .number n => toJson_ofNumber n
  | .array items => by rw [ofJson, toJson, toItems_ofItems items]
  | .object members => by rw [ofJson, toJson, toMembers_ofMembers members]

theorem toItems_ofItems : ∀ items : List Json, toItems (ofItems items) = items
  | [] => rfl
  | j :: rest => by rw [ofItems, toItems, toJson_ofJson j, toItems_ofItems rest]

theorem toMembers_ofMembers : ∀ members : List (String × Json),
    toMembers (ofMembers members) = members
  | [] => rfl
  | (k, j) :: rest => by rw [ofMembers, toMembers, toJson_ofJson j, toMembers_ofMembers rest]

end

/-! ### Numbers in fields -/

/-- A signed number is read as it was written. -/
theorem ofJson_int (n : Int64) : ofJson (toJson (.int n)) = .int n := by
  rw [toJson, ofJson, Number.ofInt64]
  split
  · rfl
  · rename_i notBelow
    have nonneg : 0 ≤ n := Int64.not_lt.mp notBelow
    have value : (n.toUInt64.toNat : Int) = n.toInt := by
      rw [Int64.toNat_toUInt64_of_le nonneg, Int64.toInt_eq_toNatClampNeg nonneg]
    have bound : n.toInt < 2 ^ 63 := n.toInt_lt
    have small : n.toUInt64.toNat ≤ Decimal.maxInt64 := by
      unfold Decimal.maxInt64
      omega
    have same : Int64.ofNat n.toUInt64.toNat = n := by
      rw [← Int64.toInt_inj, Int64.toInt_ofNat_of_lt (by omega), value]
    rw [ofNumber, if_pos small, same]

/-- An unsigned number may be read as a signed one, which conforms to what it was. -/
theorem coerce?_ofJson_uint (n : UInt64) :
    coerce? .uint (ofJson (toJson (.uint n))) = some (.uint n) := by
  rw [toJson, ofJson, ofNumber]
  split
  · rename_i small
    have value : (Int64.ofNat n.toNat).toInt = n.toNat :=
      Int64.toInt_ofNat_of_lt (by unfold Decimal.maxInt64 at small; omega)
    simp [coerce?, value]
  · rfl

theorem ofJson_float {x : Float} (h : x.isFinite = true) :
    ofJson (toJson (.float x)) = .float x := by
  rw [toJson, Number.ofFloat?, dif_pos h]
  rfl

/-! ### Values that equal themselves -/

mutual

/-- What a document says equals itself: it says no NaN. -/
theorem beq_ofJson : ∀ j : Json, (ofJson j).beq (ofJson j) = true
  | .null => rfl
  | .bool b => by simp [ofJson, beq]
  | .number n => by
    cases n with
    | nat n => rw [ofJson, ofNumber]; split <;> simp [beq]
    | neg n below => simp [ofJson, ofNumber, beq]
    | float x finite => exact beq_self finite
  | .string s => by simp [ofJson, beq]
  | .array items => beq_ofItems items
  | .object members => beq_ofMembers members

theorem beq_ofItems : ∀ items : List Json, beqItems (ofItems items) (ofItems items) = true
  | [] => rfl
  | j :: rest => by simp [ofItems, beqItems, beq_ofJson j, beq_ofItems rest]

theorem beq_ofMembers : ∀ members : List (String × Json),
    beqEntries (ofMembers members) (ofMembers members) = true
  | [] => rfl
  | (k, j) :: rest => by simp [ofMembers, beqEntries, beq_ofJson j, beq_ofMembers rest]

end

/-- A value of a kind that counts as absent is the zero of the kind, or a mapping. -/
theorem beq_zero_of_isZero {k : Kind} {v : Value} (hk : k ≠ .struct) (hv : v.HasKind k)
    (zeroed : v.isZero = true) : v.beq (zero k) = true := by
  cases k <;> cases v <;> first | exact hv.elim | exact absurd rfl hk | skip
  case string.string s => simpa [isZero, zero, beq] using zeroed
  case int.int n => simpa [isZero, zero, beq] using zeroed
  case uint.uint n => simpa [isZero, zero, beq] using zeroed
  case float.float x => exact zeroed
  case bool.bool b => simpa [isZero, zero, beq] using zeroed
  case sequence.seq items =>
    obtain rfl : items = [] := List.isEmpty_iff.mp zeroed
    rfl

/-! ### What is written of a field is read again -/

/-- A value that is written as a document and read from it as a field of a kind is what it was, and
equals itself. -/
structure Returns (k : Kind) (v : Value) : Prop where
  read : coerce? k (ofJson v.toJson) = some v
  same : v.beq v = true

theorem returns_int (n : Int64) : Returns .int (.int n) := by
  refine ⟨?_, by simp [beq]⟩
  rw [ofJson_int]
  rfl

theorem returns_uint (n : UInt64) : Returns .uint (.uint n) :=
  ⟨coerce?_ofJson_uint n, by simp [beq]⟩

theorem returns_float {x : Float} (h : x.isFinite = true) : Returns .float (.float x) := by
  refine ⟨?_, beq_self h⟩
  rw [ofJson_float h]
  rfl

theorem returns_ofJson {k : Kind} {j : Json} (h : (ofJson j).HasKind k) : Returns k (ofJson j) := by
  refine ⟨?_, beq_ofJson j⟩
  rw [toJson_ofJson]
  exact coerce?_of_hasKind h

theorem returns_zero (k : Kind) : Returns k (zero k) := by
  cases k with
  | int => exact returns_int 0
  | uint => exact returns_uint 0
  | float => exact returns_float (isFinite_ofNat (by decide))
  | _ => exact ⟨rfl, rfl⟩

/-- A float in a document is finite. -/
theorem isFinite_of_ofJson {j : Json} {x : Float} (h : ofJson j = .float x) :
    x.isFinite = true := by
  by_cases finite : x.isFinite = true
  · exact finite
  · have written := toJson_ofJson j
    rw [h, toJson, Number.ofFloat?, dif_neg finite] at written
    rw [← written] at h
    exact absurd h (by simp [ofJson])

/-- What a document says for a field of floats is finite. -/
theorem isFinite_of_coerce? {j : Json} {x : Float}
    (h : coerce? .float (ofJson j) = some (.float x)) : x.isFinite = true := by
  cases said : ofJson j with
  | float y =>
    rw [said] at h
    obtain rfl : y = x := by simpa [coerce?] using h
    exact isFinite_of_ofJson said
  | int n =>
    rw [said] at h
    obtain rfl : Float.ofInt n.toInt = x := by simpa [coerce?] using h
    have high := n.toInt_lt
    have low := n.le_toInt
    exact isFinite_ofInt (by omega)
  | uint n =>
    rw [said] at h
    obtain rfl : Float.ofNat n.toNat = x := by simpa [coerce?] using h
    exact isFinite_ofNat n.toNat_lt
  | null =>
    rw [said] at h
    obtain rfl : (0 : Float) = x := by simpa [coerce?, zero] using h
    exact isFinite_ofNat (by decide)
  | _ =>
    rw [said] at h
    exact absurd h (by simp [coerce?])

/-- A sequence or a mapping is kept as it is, or stands for null. -/
theorem eq_or_eq_of_coerce? {k : Kind} {v w : Value} (hk : k = .sequence ∨ k = .struct)
    (h : coerce? k w = some v) : v = zero k ∨ v = w := by
  rcases hk with rfl | rfl <;> cases w <;> simp_all [coerce?, eq_comm]

/-- **What a document says for a field** is written so that it is said again. -/
theorem returns_of_coerce? {k : Kind} {j : Json} {v : Value} (h : coerce? k (ofJson j) = some v) :
    Returns k v := by
  have kind : v.HasKind k := hasKind_of_coerce? h
  have nested (hk : k = .sequence ∨ k = .struct) : Returns k v := by
    rcases eq_or_eq_of_coerce? hk h with rfl | rfl
    · exact returns_zero k
    · exact returns_ofJson kind
  cases k <;> cases v <;> first | exact kind.elim | skip
  case string.string => exact ⟨rfl, by simp [beq]⟩
  case bool.bool => exact ⟨rfl, by simp [beq]⟩
  case int.int n => exact returns_int n
  case uint.uint n => exact returns_uint n
  case float.float x => exact returns_float (isFinite_of_coerce? h)
  case sequence.seq => exact nested (.inl rfl)
  case struct.map => exact nested (.inr rfl)

end Value

/-! ## Entries of documents -/

/-- Where no key repeats, the entries are the pairs. -/
theorem Entries.get?_ofPairs_eq_some_iff {α : Type} {pairs : List (String × α)}
    (distinct : (pairs.map Prod.fst).Nodup) {k : String} {a : α} :
    get? (ofPairs pairs) k = some a ↔ (k, a) ∈ pairs := by
  have found : get? (ofPairs pairs) k = (pairs.find? (·.1 = k)).map Prod.snd := by
    simpa using @get?_ofPairs_of_nodup _ _ _ Prod.snd _ distinct k
  rw [found, Option.map_eq_some_iff]
  simp only [find?_eq_some_iff_of_nodup distinct]
  constructor
  · rintro ⟨e, ⟨he, rfl⟩, rfl⟩
    exact he
  · exact fun he => ⟨(k, a), ⟨he, rfl⟩, rfl⟩

/-- No two fields of a schema show under one key. -/
def Schema.KeysDistinct (s : Schema) : Prop := (s.fields.filterMap Field.jsonKey).Nodup

instance (s : Schema) : Decidable s.KeysDistinct := inferInstanceAs (Decidable (List.Nodup _))

theorem Schema.KeysDistinct.apart {s : Schema} (distinct : s.KeysDistinct) :
    s.fields.Pairwise fun f g => ∀ k ∈ f.jsonKey, ∀ l ∈ g.jsonKey, k ≠ l :=
  List.pairwise_filterMap.mp distinct

theorem Schema.KeysDistinct.eq {s : Schema} (distinct : s.KeysDistinct) {key : String}
    {i i' : Fin s.fields.length} (shown : (s.fields.get i).jsonKey = some key)
    (shown' : (s.fields.get i').jsonKey = some key) : i = i' := by
  have apart := List.pairwise_iff_get.mp distinct.apart
  rcases lt_trichotomy i i' with before | same | after
  · exact absurd rfl (apart i i' before key shown key shown')
  · exact same
  · exact absurd rfl (apart i' i after key shown' key shown)

namespace Record

variable {r : Record} {key : String} {a : Json}

theorem map_cells (r : Record) : r.cells.map (·.2.1) = r.schema.fields := by
  unfold cells Schema.indexed
  rw [List.map_map, List.map_map]
  exact List.map_get_finRange _

/-- If fields are written under their keys where something holds, that is what is found there. -/
theorem get?_ofPairs_cells (distinct : r.schema.KeysDistinct)
    {write : Fin r.schema.fields.length × Field × Value → Option (String × Json)}
    {p : Fin r.schema.fields.length → Field → Value → String → Prop}
    (writes : ∀ {i f v k a}, write (i, f, v) = some (k, a) ↔
      f.jsonKey = some k ∧ p i f v k ∧ a = v.toJson) :
    (Json.ofPairs (r.cells.filterMap write)).get? key = some a ↔
      ∃ i, (r.schema.fields.get i).jsonKey = some key ∧
        p i (r.schema.fields.get i) (r.value i) key ∧ a = (r.value i).toJson := by
  have apart : ((r.cells.filterMap write).map Prod.fst).Nodup := by
    have fields : (r.cells.map (·.2.1)).Pairwise fun f g =>
        ∀ k ∈ f.jsonKey, ∀ l ∈ g.jsonKey, k ≠ l := by
      rw [map_cells]
      exact distinct.apart
    rw [List.Nodup, List.pairwise_map, List.pairwise_filterMap]
    refine (List.pairwise_map.mp fields).imp ?_
    intro c d apart e he e' he'
    exact apart _ (writes.mp he).1 _ (writes.mp he').1
  show Entries.get? (Entries.ofPairs _) key = some a ↔ _
  rw [Entries.get?_ofPairs_eq_some_iff apart, List.mem_filterMap]
  constructor
  · rintro ⟨c, hc, written⟩
    obtain ⟨i, rfl⟩ := mem_cells.mp hc
    exact ⟨i, writes.mp written⟩
  · rintro ⟨i, written⟩
    exact ⟨_, mem_cells.mpr ⟨i, rfl⟩, writes.mpr written⟩

/-- **The entries of a record's document**: every visible field, but for absent values of fields
that leave them out. -/
theorem get?_toJson (distinct : r.schema.KeysDistinct) : r.toJson.get? key = some a ↔
    ∃ i, (r.schema.fields.get i).jsonKey = some key ∧
      ((r.schema.fields.get i).omitEmpty && (r.value i).isZero) = false ∧
        a = (r.value i).toJson := by
  refine get?_ofPairs_cells distinct
    (p := fun _ f v _ => (f.omitEmpty && v.isZero) = false) fun {i f v k a} => ?_
  show (f.jsonKey.bind fun key =>
    if f.omitEmpty && v.isZero then none else some (key, v.toJson)) = some (k, a) ↔ _
  cases f.jsonKey with
  | none => simp
  | some shown => cases f.omitEmpty && v.isZero <;> simp [eq_comm]

/-- **The entries of a projection**: the key, if it is visible, and the visible fields whose keys
are listed. -/
theorem get?_project (distinct : r.schema.KeysDistinct) {keys : List String} :
    (r.project keys).get? key = some a ↔
      ∃ i, (r.schema.fields.get i).jsonKey = some key ∧
        (i = r.schema.primaryKey ∨ key ∈ keys) ∧ a = (r.value i).toJson := by
  refine get?_ofPairs_cells distinct
    (p := fun i _ _ k => i = r.schema.primaryKey ∨ k ∈ keys) fun {i f v k a} => ?_
  show (f.jsonKey.bind fun key =>
    if i = r.schema.primaryKey || keys.contains key then some (key, v.toJson) else none) =
      some (k, a) ↔ _
  cases f.jsonKey with
  | none => simp
  | some shown =>
    rw [Option.bind_some]
    by_cases listed : i = r.schema.primaryKey ∨ shown ∈ keys
    · rw [if_pos (by simpa using listed)]
      constructor
      · intro h
        obtain ⟨rfl, rfl⟩ := Prod.mk.inj (Option.some.inj h)
        exact ⟨rfl, listed, rfl⟩
      · rintro ⟨same, -, rfl⟩
        rw [Option.some.inj same]
    · rw [if_neg (by simpa using listed)]
      refine ⟨fun h => absurd h (by simp), ?_⟩
      rintro ⟨same, listed', -⟩
      exact absurd (Option.some.inj same ▸ listed') listed

end Record

/-! ## Reading what was written -/

namespace Field

variable {f : Field} {v : Value} {members : List (String × Json)}

/-- A value with an all-zero mapping that a document leaves out made empty. -/
def collapse (f : Field) (v : Value) : Value :=
  if f.kind = .struct && (f.omitEmpty && v.isZero) then .map [] else v

/-- What comes back of a value: a zero for one that a document leaves out. -/
def returned (f : Field) (v : Value) : Value :=
  if f.omitEmpty && v.isZero then .zero f.kind else v

/-- What was read for a field is read again where it is written. -/
theorem Reads.returns (h : f.Reads members v) : Value.Returns f.kind v := by
  cases h with
  | hidden | absent | null => exact Value.returns_zero f.kind
  | given _ _ _ fits => exact Value.returns_of_coerce? fits

/-- What comes back is what was read, but for all-zero mappings. -/
theorem beq_returned (h : Value.Returns f.kind v) : (f.collapse v).beq (f.returned v) = true := by
  have kind : v.HasKind f.kind := Value.hasKind_of_coerce? h.read
  unfold collapse returned
  cases left : f.omitEmpty && v.isZero with
  | false => simpa using h.same
  | true =>
    by_cases nested : f.kind = .struct
    · simp [nested, Value.zero, Value.beq, Value.beqEntries]
    · have zeroed : v.isZero = true := (Bool.and_eq_true_iff.mp left).2
      simpa [nested] using Value.beq_zero_of_isZero nested kind zeroed

theorem returned_zero (f : Field) : f.returned (.zero f.kind) = .zero f.kind := by
  unfold returned
  split <;> rfl

theorem Reads.eq_zero (hidden : f.jsonKey = none) (h : f.Reads members v) : v = .zero f.kind := by
  cases h with
  | hidden => rfl
  | absent shown => exact absurd (hidden.symm.trans shown) (by simp)
  | null shown => exact absurd (hidden.symm.trans shown) (by simp)
  | given shown => exact absurd (hidden.symm.trans shown) (by simp)

end Field

namespace Record

variable {r : Record}

/-- A record with all-zero mappings that documents leave out made empty. -/
def collapsed (r : Record) : Record :=
  ⟨r.schema, List.zipWith Field.collapse r.schema.fields r.values, by simp [r.length_values]⟩

/-- What comes back of a record. -/
def returned (r : Record) : Record :=
  ⟨r.schema, List.zipWith Field.returned r.schema.fields r.values, by simp [r.length_values]⟩

/-- **A field is read from the document that its record was written as.** -/
theorem decodeField_toJson (distinct : r.schema.KeysDistinct)
    {members members' : List (String × Json)} (written : r.toJson = .object members')
    {i : Fin r.schema.fields.length} (read : (r.schema.fields.get i).Reads members (r.value i)) :
    decodeField members' (r.schema.fields.get i) =
      .ok ((r.schema.fields.get i).returned (r.value i)) := by
  have entries : ∀ key, Entries.get? members' key = r.toJson.get? key := fun key => by
    rw [written]
    rfl
  cases shown : (r.schema.fields.get i).jsonKey with
  | none =>
    rw [read.eq_zero shown, Field.returned_zero]
    simp only [decodeField, shown]
  | some key =>
    unfold Field.returned
    cases left : (r.schema.fields.get i).omitEmpty && (r.value i).isZero with
    | false =>
      have found : Entries.get? members' key = some (r.value i).toJson := by
        rw [entries]
        exact (get?_toJson distinct).mpr ⟨i, shown, left, rfl⟩
      simp only [decodeField, shown, found, read.returns.read]
      rfl
    | true =>
      have absent : Entries.get? members' key = none := by
        refine Option.eq_none_iff_forall_ne_some.mpr fun a found => ?_
        rw [entries] at found
        obtain ⟨i', shown', kept, -⟩ := (get?_toJson distinct).mp found
        obtain rfl := distinct.eq shown shown'
        exact absurd (left.symm.trans kept) (by simp)
      simp only [decodeField, shown, absent]
      rfl

/-- Values that equal one another are equal lists. -/
theorem beq_of_forall₂ {vs ws : List Value} (h : List.Forall₂ (fun v w => v.beq w = true) vs ws) :
    (vs == ws) = true := by
  induction h with
  | nil => rfl
  | cons head _ ih =>
    rw [List.cons_beq_cons, ih, Bool.and_true]
    exact head

/-- **A record that was read is read again**, as what comes back of it, from what it is written
as. -/
theorem ofJson_toJson {s : Schema} {j : Json} (distinct : s.KeysDistinct)
    (h : ofJson s j = .ok r) :
    r.schema = s ∧ ofJson s r.toJson = .ok r.returned ∧
      (r.collapsed == r.returned) = true := by
  cases j with
  | object members =>
    obtain ⟨rfl, values⟩ := ofJson_eq_ok_iff.mp h
    have reads : ∀ i, (r.schema.fields.get i).Reads members (r.value i) := fun i =>
      decodeField_eq_ok_iff.mp (values.get i.isLt (by rw [r.length_values]; exact i.isLt))
    refine ⟨rfl, ?_, ?_⟩
    · have length := r.returned.length_values.symm
      refine ofJson_eq_ok_iff.mpr ⟨rfl, List.forall₂_iff_get.mpr ⟨length, ?_⟩⟩
      intro i hi hi'
      have read := decodeField_toJson distinct rfl (reads ⟨i, hi⟩)
      simp only [returned, List.get_eq_getElem, List.getElem_zipWith]
      exact read
    · have same : (r.collapsed.values == r.returned.values) = true := by
        refine beq_of_forall₂ (List.forall₂_iff_get.mpr ⟨?_, ?_⟩)
        · rw [r.collapsed.length_values, r.returned.length_values]
          rfl
        · intro i hi hi'
          have bound : i < r.schema.fields.length := r.collapsed.length_values ▸ hi
          simp only [collapsed, returned, List.get_eq_getElem, List.getElem_zipWith]
          exact Field.beq_returned (reads ⟨i, bound⟩).returns
      show (r.schema.name == r.schema.name && r.collapsed.values == r.returned.values) = true
      rw [same, beq_self_eq_true, Bool.and_true]
  | _ => exact absurd h (by simp [ofJson])

/-- **Reading, writing and reading again.** Where no two fields show under one key, a record that
was read is read again from what it is written as, and is the same, but for all-zero mappings that
the document left out. A projection has an entry for the key, if it is visible, and for the visible
fields whose keys are listed, and no other; it is the one that the whole document has, if that has
one. -/
theorem read_write_read {s : Schema} (distinct : s.KeysDistinct) :
    (∀ (j : Json) (r : Record), ofJson s j = .ok r →
      ∃ r', ofJson s r.toJson = .ok r' ∧ r'.schema = s ∧ (r.collapsed == r') = true) ∧
    ∀ (r : Record), r.schema = s → ∀ (keys : List String) (key : String),
      (∀ a, (r.project keys).get? key = some a ↔
        ∃ (i : Nat) (f : Field) (v : Value), s.fields[i]? = some f ∧ r.values[i]? = some v ∧
          f.jsonKey = some key ∧ (i = s.primaryKey ∨ key ∈ keys) ∧ a = v.toJson) ∧
      ∀ a b, r.toJson.get? key = some a → (r.project keys).get? key = some b → a = b := by
  constructor
  · intro j r h
    obtain ⟨schema, read, same⟩ := ofJson_toJson distinct h
    exact ⟨r.returned, read, schema, same⟩
  · rintro r rfl keys key
    refine ⟨fun a => (get?_project distinct).trans ⟨?_, ?_⟩, fun a b whole part => ?_⟩
    · rintro ⟨i, shown, listed, value⟩
      exact ⟨i, _, _, r.schema.getElem?_fields i, r.getElem?_values i, shown,
        listed.imp_left (congrArg Fin.val), value⟩
    · rintro ⟨i, f, v, hf, hv, shown, listed, value⟩
      obtain ⟨hi, rfl⟩ := List.getElem?_eq_some_iff.mp hf
      obtain rfl := Option.some.inj ((r.getElem?_values ⟨i, hi⟩).symm.trans hv)
      exact ⟨⟨i, hi⟩, shown, listed.imp_left Fin.ext, value⟩
    · obtain ⟨i, shown, -, rfl⟩ := (get?_toJson distinct).mp whole
      obtain ⟨i', shown', -, rfl⟩ := (get?_project distinct).mp part
      rw [distinct.eq shown shown']

/-! ### A parcel with nothing extra -/

/-- The schema of parcels: a number, and extras that documents leave out if there are none. -/
def parcel : Schema where
  name := "parcel"
  collection := "parcel"
  fields := [
    ⟨"id", .uint, some "id", some "id", false, "", [], none⟩,
    ⟨"extras", .struct, some "extras", some "extras", true, "", [], none⟩]
  primaryKey := 0
  autoKey := false
  created := none
  updated := none
  softDelete := none
  operations := []

/-- A parcel with a mapping that says nothing. -/
def plainParcel : Record := ⟨parcel, [.uint 7, .map [("gift", .null)]], rfl⟩

theorem read_write_read_plainParcel :
    parcel.KeysDistinct ∧
      ofJson parcel (.object [("extras", .object [("gift", .null)]), ("id", .nat 7)]) =
        .ok plainParcel ∧
      (∃ r', ofJson parcel plainParcel.toJson = .ok r' ∧ r'.schema = parcel ∧
        (Record.mk parcel [.uint 7, .map []] rfl == r') = true) ∧
      (plainParcel.project ["extras"]).get? "extras" = some (.object [("gift", .null)]) := by
  have distinct : parcel.KeysDistinct := by decide
  have read : ofJson parcel (.object [("extras", .object [("gift", .null)]), ("id", .nat 7)]) =
      .ok plainParcel := by cbv
  have again := read_write_read distinct
  refine ⟨distinct, read, again.1 _ _ read, ?_⟩
  exact ((again.2 plainParcel rfl ["extras"] "extras").1 _).mpr
    ⟨1, _, _, rfl, rfl, rfl, .inr (List.mem_singleton_self _), rfl⟩

end Record

end Registrar
