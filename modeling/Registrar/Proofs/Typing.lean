import Registrar.Proofs.Runs
import Registrar.Proofs.Writes

/-!
# Records stay well typed

Values get into a record by many ways: they are set, read from a document, copied from a record of
another schema, flagged, stamped, and assigned or blanked by a store. Only some of these conform the
value to the kind of its field; the others rely on what was checked elsewhere, a merge on the two
layouts being the same, a flag on the descriptor's check of the field for it. `Record.Made` is every
record that is reached in these ways.

* `Value.coerce?_whole`: a whole number is kept where the kind can hold it, and refused otherwise.
* `Record.assign_apply`: setting in place, and that it leaves the record as it was if it fails.
* `Record.wellTyped_of_made`: every record that is made is well typed.
* `Record.made_well_typed`: the two together, for a record and what is set in it or read into it.
-/

namespace Registrar

/-! ## Whole numbers -/

/-- The number of a whole value, with or without a sign. -/
def Value.whole? : Value → Option Int
  | .int n => some n.toInt
  | .uint n => some n.toNat
  | _ => none

namespace Kind

/-- The two kinds of whole numbers. -/
def IsWhole (k : Kind) : Prop := k = .int ∨ k = .uint

/-- The numbers that a kind can hold. -/
def Fits : Kind → Int → Prop
  | .int, z => -2 ^ 63 ≤ z ∧ z < 2 ^ 63
  | .uint, z => 0 ≤ z ∧ z < 2 ^ 64
  | _, _ => False

end Kind

namespace Value

variable {k : Kind} {v : Value} {z : Int}

/-- **A whole number is kept** where the kind can hold it, and refused otherwise. -/
theorem coerce?_whole (hk : k.IsWhole) (hv : v.whole? = some z) :
    (k.Fits z ∧ ∃ w, v.coerce? k = some w ∧ w.whole? = some z) ∨
      (¬ k.Fits z ∧ v.coerce? k = none) := by
  cases v with
  | int n =>
    obtain rfl := Option.some.inj hv
    have lower := Int64.le_toInt n
    have upper := Int64.toInt_lt n
    rcases hk with rfl | rfl
    · exact .inl ⟨⟨lower, upper⟩, .int n, rfl, rfl⟩
    · by_cases nonneg : 0 ≤ n.toInt
      · have small : n.toInt.toNat < 2 ^ 64 := by omega
        have kept : (UInt64.ofNat n.toInt.toNat).toNat = n.toInt.toNat :=
          UInt64.toNat_ofNat_of_lt' small
        refine .inl ⟨⟨nonneg, by omega⟩, .uint (UInt64.ofNat n.toInt.toNat), ?_, ?_⟩
        · simp [coerce?, nonneg]
        · simp only [whole?, kept, Int.toNat_of_nonneg nonneg]
      · exact .inr ⟨fun fits => nonneg fits.1, by simp [coerce?, nonneg]⟩
  | uint n =>
    obtain rfl := Option.some.inj hv
    have upper := n.toNat_lt
    rcases hk with rfl | rfl
    · by_cases small : n.toNat ≤ Decimal.maxInt64
      · have bound : n.toNat < 2 ^ 63 := by unfold Decimal.maxInt64 at small; omega
        refine .inl ⟨⟨by omega, by omega⟩, .int (Int64.ofNat n.toNat), ?_, ?_⟩
        · simp [coerce?, small]
        · simp only [whole?, Int64.toInt_ofNat_of_lt bound]
      · refine .inr ⟨fun fits => small ?_, by simp [coerce?, small]⟩
        have bound := fits.2
        unfold Decimal.maxInt64
        omega
    · exact .inl ⟨⟨by omega, by omega⟩, .uint n, rfl, rfl⟩
  | _ => exact absurd hv (by simp [whole?])

end Value

namespace Record

variable {r r' : Record} {name : String} {v : Value} {z : Int}

/-! ## Setting -/

/-- Set the field with a name in place. -/
def assign (name : String) (v : Value) : ExceptT RecordFault (StateM Record) Unit := do
  let r ← get
  match r.schema.index? name with
  | none => throw (.unknownField r.schema.name name)
  | some i =>
    let f := r.schema.fields.get i
    match v.coerce? f.kind with
    | none => throw (.kindMismatch r.schema.name f.name f.kind.name v.sort)
    | some w => MonadStateOf.set (r.put i w)

/-- **Setting in place** is setting, and leaves the record as it was if it fails. -/
theorem assign_apply (name : String) (v : Value) (r : Record) : assign name v r =
    match r.set name v with
    | .ok r' => (.ok (), r')
    | .error fault => (.error fault, r) := by
  have step : assign name v r = (match r.schema.index? name with
    | none => throw (RecordFault.unknownField r.schema.name name)
    | some i => match v.coerce? (r.schema.fields.get i).kind with
      | none => throw (RecordFault.kindMismatch r.schema.name (r.schema.fields.get i).name
          (r.schema.fields.get i).kind.name v.sort)
      | some w => MonadStateOf.set (r.put i w) : ExceptT RecordFault (StateM Record) Unit) r := rfl
  rw [step]
  unfold set
  cases r.schema.index? name with
  | none => rfl
  | some i =>
    unfold setAt
    dsimp only
    cases v.coerce? (r.schema.fields.get i).kind with
    | none => rfl
    | some w => rfl

theorem set_of_index? {i : Fin r.schema.fields.length} (hi : r.schema.index? name = some i) :
    r.set name v = r.setAt i v := by
  unfold set
  rw [hi]

/-- A whole number is set where it fits the field, and refused otherwise. -/
theorem setAt_whole {i : Fin r.schema.fields.length}
    (hk : (r.schema.fields.get i).kind.IsWhole) (hv : v.whole? = some z) :
    ((r.schema.fields.get i).kind.Fits z ∧
        ∃ w, r.setAt i v = .ok (r.put i w) ∧ w.whole? = some z) ∨
      (¬ (r.schema.fields.get i).kind.Fits z ∧
        r.setAt i v = .error (.kindMismatch r.schema.name (r.schema.fields.get i).name
          (r.schema.fields.get i).kind.name v.sort)) := by
  rcases Value.coerce?_whole hk hv with ⟨fits, w, hw, whole⟩ | ⟨fits, none⟩
  · exact .inl ⟨fits, w, setAt_eq_ok.mpr ⟨w, hw, rfl⟩, whole⟩
  · refine .inr ⟨fits, ?_⟩
    unfold setAt
    simp only [none]

theorem wellTyped_of_set (hr : r.WellTyped) (h : r.set name v = .ok r') : r'.WellTyped := by
  unfold set at h
  split at h
  · exact wellTyped_of_setAt hr h
  · exact absurd h (by simp)

/-! ## Reading a document -/

section Decode

variable {members : List (String × Json)} {f : Field} {key : String} {j : Json}

/-- A whole number is read where it fits the field, and refused otherwise. -/
theorem decodeField_whole (hkey : f.jsonKey = some key) (hj : Entries.get? members key = some j)
    (hk : f.kind.IsWhole) (hv : (Value.ofJson j).whole? = some z) :
    (f.kind.Fits z ∧ ∃ w, decodeField members f = .ok w ∧ w.whole? = some z) ∨
      (¬ f.kind.Fits z ∧ decodeField members f =
        .error (.kindMismatch key f.kind.name (Value.ofJson j).sort)) := by
  unfold decodeField
  rw [hkey]
  dsimp only
  rw [hj]
  dsimp only
  rcases Value.coerce?_whole hk hv with ⟨fits, w, hw, whole⟩ | ⟨fits, none⟩
  · rw [hw]
    exact .inl ⟨fits, w, rfl, whole⟩
  · rw [none]
    exact .inr ⟨fits, rfl⟩

theorem decodeFields_eq_ok : ∀ {fields : List Field}
    {vs : { vs : List Value // vs.length = fields.length }},
    decodeFields members fields = .ok vs ↔
      List.Forall₂ (fun f v => decodeField members f = .ok v) fields vs.1
  | [], ⟨vs, h⟩ => by
    obtain rfl := List.length_eq_zero_iff.mp h
    exact ⟨fun _ => .nil, fun _ => rfl⟩
  | f :: rest, ⟨vs, h⟩ => by
    unfold decodeFields
    rw [bind_eq_ok, List.forall₂_cons_left_iff]
    constructor
    · rintro ⟨w, hw, h⟩
      obtain ⟨ws, hws, h⟩ := bind_eq_ok.mp h
      have values := congrArg Subtype.val (pure_eq_ok.mp h)
      exact ⟨w, ws.1, hw, decodeFields_eq_ok.mp hws, values.symm⟩
    · rintro ⟨w, ws, hw, hws, rfl⟩
      have length : ws.length = rest.length := by simpa using h
      refine ⟨w, hw, bind_eq_ok.mpr ⟨⟨ws, length⟩, decodeFields_eq_ok.mpr hws, rfl⟩⟩

/-- **A document is read** iff every field is, and then every value is the one that is read. -/
theorem ofJson_eq_ok_iff {s : Schema} : ofJson s (.object members) = .ok r ↔ r.schema = s ∧
    List.Forall₂ (fun f v => decodeField members f = .ok v) s.fields r.values := by
  show (decodeFields members s.fields).map _ = .ok r ↔ _
  rw [map_eq_ok]
  constructor
  · rintro ⟨vs, hvs, rfl⟩
    exact ⟨rfl, decodeFields_eq_ok.mp hvs⟩
  · rintro ⟨rfl, h⟩
    exact ⟨⟨r.values, r.length_values⟩, decodeFields_eq_ok.mpr h, rfl⟩

end Decode

/-! ## Records that are made -/

/-- A record that is made of nothing, of a document, or of records that were made before. Only
where a record is flagged does it matter that its schema was resolved. -/
inductive Made : Record → Prop
  | blank (s : Schema) : Made (.blank s)
  | read {s : Schema} {j : Json} {r : Record} (h : ofJson s j = .ok r) : Made r
  | set {r r' : Record} {name : String} {v : Value} (hr : Made r) (h : r.set name v = .ok r') :
      Made r'
  | merge {rule : MergeRule} {source target r : Record} (hs : Made source) (ht : Made target)
      (h : rule.apply source target = .ok r) : Made r
  | flag {r r' : Record} (hr : Made r) (resolved : r.schema.Resolved) (h : r.flagged? = some r') :
      Made r'
  | stampCreated {now : Int64} {r r' : Record} (hr : Made r)
      (h : Lifecycle.stampCreated now r = .ok r') : Made r'
  | stampUpdated {now : Int64} {r r' : Record} (hr : Made r)
      (h : Lifecycle.stampUpdated now r = .ok r') : Made r'
  | preInsert {l : Lifecycle} {now : Int64} {r r' : Record} (hl : l.Standard) (hr : Made r)
      (h : l.preInsert now r = .ok r') : Made r'
  | preUpdate {l : Lifecycle} {now : Int64} {r r' : Record} (hl : l.Standard) (hr : Made r)
      (h : l.preUpdate now r = .ok r') : Made r'
  | inserted {st st' : Store} {r stored : Record} (hr : Made r)
      (h : Store.insert r st = (.ok stored, st')) : Made stored
  | updated {st st' : Store} {r stored : Record} (hr : Made r)
      (h : Store.update r st = (.ok stored, st')) : Made stored

/-- **Every record that is made is well typed.** -/
theorem wellTyped_of_made (h : Made r) : r.WellTyped := by
  induction h with
  | blank s => exact wellTyped_blank s
  | read h => exact (wellTyped_of_ofJson h).2
  | set _ h ih => exact wellTyped_of_set ih h
  | merge _ _ h ihs iht => exact MergeRule.wellTyped_apply ihs iht h
  | flag _ resolved h ih => exact wellTyped_flagged resolved.sound ih h
  | stampCreated _ h ih => exact (Lifecycle.stampAt_eq_ok h).2 ih
  | stampUpdated _ h ih => exact (Lifecycle.stampAt_eq_ok h).2 ih
  | preInsert hl _ h ih => exact (hl.preInsert h).2 ih
  | preUpdate hl _ h ih => exact (hl.preUpdate h).2 ih
  | inserted _ h ih =>
    obtain ⟨t, hinsert, -⟩ := Store.insert_eq_ok h
    exact Table.wellTyped_of_insert ih hinsert
  | updated _ h ih =>
    obtain ⟨t, hupdate, -⟩ := Store.update_eq_ok h
    obtain ⟨rfl, -⟩ := Table.update_spec hupdate
    exact ih.stored

/-- A record is well typed iff its values are of the kinds of its fields, one for one. -/
theorem wellTyped_iff :
    r.WellTyped ↔ List.Forall₂ (fun f v => v.HasKind f.kind) r.schema.fields r.values := by
  rw [List.forall₂_iff_get]
  constructor
  · intro typed
    refine ⟨r.length_values.symm, fun i hf hv => ?_⟩
    exact typed i _ _ (List.getElem?_eq_getElem hf) (List.getElem?_eq_getElem hv)
  · rintro ⟨-, typed⟩ i f v hf hv
    obtain ⟨hi, rfl⟩ := List.getElem?_eq_some_iff.mp hf
    obtain ⟨hi', rfl⟩ := List.getElem?_eq_some_iff.mp hv
    exact typed i hi hi'

/-- **Records stay well typed.** A record that was made has one value for each of its fields, of the
kind of the field. A whole number that is set in it is kept where the field can hold it and refused
otherwise, and so is one that is read for a field; a document is read iff all its fields are. A
setting in place that fails leaves the record as it was. -/
theorem made_well_typed (h : Made r) :
    List.Forall₂ (fun f v => v.HasKind f.kind) r.schema.fields r.values ∧
    (∀ (v : Value) (z : Int) (i : Fin r.schema.fields.length),
      (r.schema.fields.get i).kind.IsWhole → v.whole? = some z →
        ((r.schema.fields.get i).kind.Fits z ∧
            ∃ w, r.setAt i v = .ok (r.put i w) ∧ w.whole? = some z) ∨
          (¬ (r.schema.fields.get i).kind.Fits z ∧
            r.setAt i v = .error (.kindMismatch r.schema.name (r.schema.fields.get i).name
              (r.schema.fields.get i).kind.name v.sort))) ∧
    (∀ (name : String) (v : Value) (i : Fin r.schema.fields.length),
      r.schema.index? name = some i → r.set name v = r.setAt i v) ∧
    (∀ (members : List (String × Json)) (f : Field) (key : String) (j : Json) (z : Int),
      f.jsonKey = some key → Entries.get? members key = some j → f.kind.IsWhole →
        (Value.ofJson j).whole? = some z →
        (f.kind.Fits z ∧ ∃ w, decodeField members f = .ok w ∧ w.whole? = some z) ∨
          (¬ f.kind.Fits z ∧ decodeField members f =
            .error (.kindMismatch key f.kind.name (Value.ofJson j).sort))) ∧
    (∀ (members : List (String × Json)) (r' : Record),
      ofJson r.schema (.object members) = .ok r' ↔ r'.schema = r.schema ∧
        List.Forall₂ (fun f v => decodeField members f = .ok v) r.schema.fields r'.values) ∧
    ∀ (name : String) (v : Value) (fault : RecordFault),
      (assign name v r).1 = .error fault → (assign name v r).2 = r := by
  refine ⟨wellTyped_iff.mp (wellTyped_of_made h), fun v z i hk hv => setAt_whole hk hv,
    fun name v i hi => set_of_index? hi,
    fun members f key j z hkey hj hk hv => decodeField_whole hkey hj hk hv,
    fun members r' => ofJson_eq_ok_iff, fun name v fault failed => ?_⟩
  rw [assign_apply] at failed ⊢
  cases hset : r.set name v with
  | ok r' =>
    rw [hset] at failed
    exact absurd failed (by simp)
  | error fault' => rfl

/-- A note that nothing was set in, flagged as deleted. -/
def goneNote : Record := (blank note).put ⟨5, by decide⟩ (.bool true)

theorem made_well_typed_goneNote :
    Made goneNote ∧
    List.Forall₂ (fun f v => v.HasKind f.kind) goneNote.schema.fields goneNote.values ∧
    (assign "id" (.uint 9223372036854775808) goneNote).1 =
      .error (.kindMismatch "note" "id" "int" "uint") ∧
    (assign "id" (.uint 9223372036854775808) goneNote).2 = goneNote := by
  have made : Made goneNote := .flag (.blank note) resolved_note rfl
  have refused : (assign "id" (.uint 9223372036854775808) goneNote).1 =
      .error (.kindMismatch "note" "id" "int" "uint") := rfl
  obtain ⟨typed, -, -, -, -, stays⟩ := made_well_typed made
  exact ⟨made, typed, refused, stays _ _ _ refused⟩

end Record

end Registrar
