import Registrar.Proofs.Keys
import Registrar.Proofs.Records
import Registrar.Proofs.Resolving

/-!
# What a write does to a table

A row is found at the first index whose key is the one looked for, and written back there
(`FirstWith`). Adding a record appends one row, whose key no other row has.

* `insert_spec`: what an insertion that succeeds stores, and that its key is fresh.
* `update_spec`: what an update that succeeds writes, and where.
* `keys_update`: among keys of one kind an update leaves the keys as they were.
-/

namespace Registrar.Table

variable {t t' : Table} {id : Value} {r stored : Record}

/-- The keys of the rows, in order. -/
def keys (t : Table) : List Value := t.rows.map (·.key)

theorem getElem?_keys (t : Table) (i : Nat) : t.keys[i]? = t.rows[i]?.map (·.key) :=
  List.getElem?_map

/-! ## Finding -/

/-- The row at an index is the first one with a key. -/
structure FirstWith (rows : List Record) (id : Value) (i : Nat) (r : Record) : Prop where
  row : rows[i]? = some r
  same : r.key.sameKey id = true
  earlier : ∀ (j : Nat) (q : Record), j < i → rows[j]? = some q → q.key.sameKey id = false

namespace FirstWith

variable {rows : List Record} {i j : Nat} {q : Record}

theorem index_le (h : FirstWith rows id i r) (h' : FirstWith rows id j q) : i ≤ j := by
  by_contra later
  have missed := h.earlier j q (Nat.lt_of_not_le later) h'.row
  rw [h'.same] at missed
  exact absurd missed (by simp)

theorem unique (h : FirstWith rows id i r) (h' : FirstWith rows id j q) : i = j ∧ r = q := by
  have same := Nat.le_antisymm (h.index_le h') (h'.index_le h)
  subst same
  exact ⟨rfl, Option.some.inj (h.row.symm.trans h'.row)⟩

/-- A row with the same key in the same place is found there. -/
theorem set (h : FirstWith rows id i r) (hkey : q.key = r.key) :
    FirstWith (rows.set i q) id i q := by
  refine ⟨?_, by rw [hkey]; exact h.same, fun j p hj hp => ?_⟩
  · rw [List.getElem?_set_self (List.getElem?_eq_some_iff.mp h.row).1]
  · rw [List.getElem?_set_ne (Nat.ne_of_gt hj)] at hp
    exact h.earlier j p hj hp

end FirstWith

theorem find?_eq_some : t.find? id = some r ↔ ∃ i, FirstWith t.rows id i r := by
  unfold find?
  rw [List.find?_eq_some_iff_getElem]
  constructor
  · rintro ⟨same, i, hi, hrow, earlier⟩
    refine ⟨i, List.getElem?_eq_some_iff.mpr ⟨hi, hrow⟩, same, fun j q hj hq => ?_⟩
    obtain ⟨_, rfl⟩ := List.getElem?_eq_some_iff.mp hq
    simpa using earlier j hj
  · rintro ⟨i, hrow, same, earlier⟩
    obtain ⟨hi, hrow⟩ := List.getElem?_eq_some_iff.mp hrow
    refine ⟨same, i, hi, hrow, fun j hj => ?_⟩
    simpa using earlier j _ hj (List.getElem?_eq_getElem (Nat.lt_trans hj hi))

theorem holds_eq_isSome (t : Table) (id : Value) : t.holds id = (t.find? id).isSome := by
  unfold holds find?
  rw [Bool.eq_iff_iff, List.find?_isSome, List.any_eq_true]

theorem holds_eq_any_keys (t : Table) (id : Value) :
    t.holds id = t.keys.any fun key => key.sameKey id := by
  unfold holds keys
  rw [List.any_map]
  rfl

theorem sameKey_of_not_holds (h : t.holds id = false) : ∀ q ∈ t.rows, q.key.sameKey id = false := by
  unfold holds at h
  simpa using h

/-! ## Adding -/

theorem freeFrom?_eq_some {k : Kind} : ∀ {span n m : Nat}, t.freeFrom? k span n = some m →
    n < m ∧ m ≤ n + span ∧ t.holds (assigned k m) = false
  | 0, _, _, h => absurd h (by simp [freeFrom?])
  | span + 1, n, m, h => by
    unfold freeFrom? at h
    split at h
    · obtain ⟨above, within, free⟩ := freeFrom?_eq_some h
      exact ⟨by omega, by omega, free⟩
    · rename_i free
      obtain rfl := Option.some.inj h
      exact ⟨by omega, by omega, by simpa using free⟩

theorem nextNumber?_eq_some {k : Kind} {n : Nat} (h : t.nextNumber? k = some n) :
    n ≤ Decimal.maxInt64 ∧ t.holds (assigned k n) = false := by
  obtain ⟨above, within, free⟩ := freeFrom?_eq_some h
  exact ⟨by omega, free⟩

/-- A record that is given no key is added, unless a row has its key. -/
theorem insert_of_not_wantsKey (h : wantsKey r = false) : t.insert r =
    if t.holds r.key then .error (.badRequest (.duplicateKey r.schema.collection r.key))
    else .ok (r.stored, ⟨t.rows ++ [r.stored], t.counter⟩) := by
  unfold insert withKey
  rw [h, if_neg Bool.false_ne_true]
  split <;> rfl

/-- A record that is given a key gets the least number that is free, unless there is none. -/
theorem insert_of_wantsKey (hs : r.schema.Sound) (h : wantsKey r = true) :
    (t.nextNumber? r.schema.keyField.kind = none ∧
      t.insert r = .error (.crash .keysExhausted)) ∨
    ∃ n w, t.nextNumber? r.schema.keyField.kind = some n ∧
      (assigned r.schema.keyField.kind n).coerce? r.schema.keyField.kind = some w ∧
      t.insert r = .ok ((r.put r.schema.primaryKey w).stored,
        ⟨t.rows ++ [(r.put r.schema.primaryKey w).stored], n⟩) := by
  unfold insert withKey
  rw [if_pos h]
  cases hn : t.nextNumber? r.schema.keyField.kind with
  | none => exact .inl ⟨rfl, rfl⟩
  | some n =>
    obtain ⟨w, hw, -⟩ := exists_coerce?_assigned hs.keyKind (nextNumber?_eq_some hn).1
    have set : r.setAt r.schema.primaryKey (assigned r.schema.keyField.kind n) =
        .ok (r.put r.schema.primaryKey w) := Record.setAt_eq_ok.mpr ⟨w, hw, rfl⟩
    simp only [set]
    exact .inr ⟨n, w, rfl, hw, rfl⟩

/-- **What an insertion can do**: add a record as it is, if no row has its key, or with the key made
of the next number. -/
theorem insert_cases (h : t.insert r = .ok (stored, t')) :
    (wantsKey r = false ∧ t.holds r.key = false ∧ stored = r.stored ∧
      t' = ⟨t.rows ++ [stored], t.counter⟩) ∨
    (wantsKey r = true ∧ ∃ n w, t.nextNumber? r.schema.keyField.kind = some n ∧
      (assigned r.schema.keyField.kind n).coerce? r.schema.keyField.kind = some w ∧
      stored = (r.put r.schema.primaryKey w).stored ∧ t' = ⟨t.rows ++ [stored], n⟩) := by
  obtain ⟨⟨keyed, n⟩, hkeyed, h⟩ := bind_eq_ok.mp h
  obtain ⟨rfl, rfl⟩ := Prod.mk.inj (pure_eq_ok.mp h)
  unfold withKey at hkeyed
  split at hkeyed
  · rename_i wants
    split at hkeyed
    · exact absurd hkeyed (by simp)
    · rename_i m free
      split at hkeyed
      · rename_i hset
        obtain ⟨rfl, rfl⟩ := Prod.mk.inj (Except.ok.inj hkeyed)
        obtain ⟨w, fits, rfl⟩ := Record.setAt_eq_ok.mp hset
        exact .inr ⟨wants, m, w, free, fits, rfl, rfl⟩
      · exact absurd hkeyed (by simp)
  · rename_i wants
    split at hkeyed
    · exact absurd hkeyed (by simp)
    · rename_i free
      obtain ⟨rfl, rfl⟩ := Prod.mk.inj (Except.ok.inj hkeyed)
      exact .inl ⟨by simpa using wants, by simpa using free, rfl, rfl⟩

/-- A number that is free makes a key that no row has. -/
theorem sameKey_of_nextNumber? {k : Kind} {n : Nat} {w : Value}
    (hk : Descriptor.isKeyKind k = true) (free : t.nextNumber? k = some n)
    (fits : (assigned k n).coerce? k = some w) :
    w.sameKey (assigned k n) = true ∧
      ∀ q ∈ t.rows, q.key.HasKind k → q.key.sameKey w = false := by
  obtain ⟨small, free⟩ := nextNumber?_eq_some free
  obtain ⟨w', hw', kind, same⟩ := exists_coerce?_assigned hk small
  obtain rfl : w = w' := Option.some.inj (fits.symm.trans hw')
  refine ⟨same, fun q hq hkind => ?_⟩
  -- a row with this key would have the number that was found free
  by_contra held
  have equal : q.key = w := (Value.sameKey_iff_eq hk hkind kind).mp (eq_true_of_ne_false held)
  have taken := sameKey_of_not_holds free q hq
  rw [equal, same] at taken
  exact absurd taken (by simp)

theorem wellTyped_of_insert (hr : r.WellTyped) (h : t.insert r = .ok (stored, t')) :
    stored.WellTyped := by
  rcases insert_cases h with ⟨-, -, rfl, -⟩ | ⟨-, n, w, -, fits, rfl, -⟩
  · exact hr.stored
  · exact (hr.put (Value.hasKind_of_coerce? fits)).stored

/-- **An insertion appends one row**, whose key no row has. -/
theorem insert_spec (hs : r.schema.Sound) (hr : r.WellTyped)
    (h : t.insert r = .ok (stored, t')) :
    stored.schema = r.schema ∧ stored.WellTyped ∧ stored.Settled ∧
      t'.rows = t.rows ++ [stored] ∧
      ∀ q ∈ t.rows, q.key.HasKind r.schema.keyField.kind → q.key.sameKey stored.key = false := by
  have typed := wellTyped_of_insert hr h
  rcases insert_cases h with ⟨-, free, rfl, rfl⟩ | ⟨-, n, w, free, fits, rfl, rfl⟩
  · refine ⟨rfl, typed, r.settled_stored, rfl, fun q hq _ => ?_⟩
    rw [Record.key_stored hs.keyPersisted]
    exact sameKey_of_not_holds free q hq
  · refine ⟨rfl, typed, Record.settled_stored _, rfl, ?_⟩
    have persisted : (r.put r.schema.primaryKey w).schema.keyField.isPersisted = true :=
      hs.keyPersisted
    rw [Record.key_stored persisted, r.key_put]
    exact (sameKey_of_nextNumber? hs.keyKind free fits).2

theorem keys_insert (hs : r.schema.Sound) (hr : r.WellTyped)
    (h : t.insert r = .ok (stored, t')) : t'.keys = t.keys ++ [stored.key] := by
  obtain ⟨-, -, -, rows, -⟩ := insert_spec hs hr h
  unfold keys
  rw [rows, List.map_append]
  rfl

/-! ## Writing over -/

theorem replace_eq_set : ∀ {rows : List Record} {i : Nat} {old : Record},
    FirstWith rows id i old → replace id stored rows = rows.set i stored
  | [], _, _, h => absurd h.row (by simp)
  | q :: rest, 0, old, h => by
    obtain rfl := Option.some.inj h.row
    unfold replace
    rw [if_pos h.same]
    rfl
  | q :: rest, i + 1, old, h => by
    have later : FirstWith rest id i old :=
      ⟨h.row, h.same, fun j p hj hp => h.earlier (j + 1) p (Nat.succ_lt_succ hj) hp⟩
    unfold replace
    rw [h.earlier 0 q (Nat.succ_pos i) rfl, List.set_cons_succ, ← replace_eq_set later]
    rfl

/-- **An update writes over the first row with the key** of the record. -/
theorem update_spec (h : t.update r = .ok (stored, t')) :
    stored = r.stored ∧ ∃ i old, FirstWith t.rows r.key i old ∧ t'.rows = t.rows.set i stored := by
  unfold update at h
  split at h
  · rename_i held
    obtain ⟨rfl, rfl⟩ := Prod.mk.inj (Except.ok.inj h)
    rw [holds_eq_isSome] at held
    obtain ⟨old, hold⟩ := Option.isSome_iff_exists.mp held
    obtain ⟨i, first⟩ := find?_eq_some.mp hold
    exact ⟨rfl, i, old, first, replace_eq_set first⟩
  · exact absurd h (by simp)

/-- Among keys of one kind an update leaves the keys as they were. -/
theorem keys_update (hs : r.schema.Sound) (hr : r.WellTyped)
    (hkind : ∀ q ∈ t.rows, q.key.HasKind r.schema.keyField.kind)
    (h : t.update r = .ok (stored, t')) : t'.keys = t.keys := by
  obtain ⟨rfl, i, old, first, rows⟩ := update_spec h
  have key : old.key = r.key :=
    (Value.sameKey_iff_eq hs.keyKind (hkind old (List.mem_of_getElem? first.row)) hr.key).mp
      first.same
  have there : t.keys[i]? = some r.key := by
    rw [getElem?_keys, first.row, Option.map_some, key]
  obtain ⟨hi, there⟩ := List.getElem?_eq_some_iff.mp there
  have written : t'.keys = t.keys.set i r.key := by
    unfold keys
    rw [rows, List.map_set, Record.key_stored hs.keyPersisted]
  rw [written, ← there, List.set_getElem_self]

end Registrar.Table
