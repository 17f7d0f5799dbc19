import Registrar.Proofs.Executors
import Registrar.Proofs.Lookups

/-!
# Written statements carry what a store keeps

A record is inserted or written over its row in two ways, by a store and by a statement, and each
settles by itself which fields and which key it writes. Here the fields of a statement are told by
their indexes (`Record.inserts`, `Schema.updates`), and columns, placeholders and bound values all
belong to the indexes of one list, place by place (`Carries`). What is bound is what the store
keeps at these indexes (`Keeps`), and nothing but a number that cannot be bound is in the way.

A column stands here for the field that has it; whether two fields have one column is not looked at.

* `Statement.carries_insert`, `Statement.carries_update`: what the statements read as and bind.
* `Table.isZero_of_assigned`: a key that is given is not the zero that asked for it.
* **`Statement.writes_carry`**: statements and store write the same values of the same fields, and a
  key is left out just where the store assigns one.
-/

namespace Registrar

/-! ## Indexes that are written -/

/-- The indexes that an insertion carries: those of the fields that have a column, less the key
where one is to be assigned. -/
def Record.inserts (r : Record) : List (Fin r.schema.fields.length) :=
  (List.finRange r.schema.fields.length).filter fun i =>
    (r.schema.fields.get i).isPersisted && !(i = r.schema.primaryKey && Table.wantsKey r)

theorem Record.mem_inserts {r : Record} {i : Fin r.schema.fields.length} : i ∈ r.inserts ↔
    (r.schema.fields.get i).isPersisted = true ∧
      (i = r.schema.primaryKey → Table.wantsKey r = false) := by
  unfold inserts
  rw [List.mem_filter]
  simp [imp_iff_not_or]

/-- The key is left out just if the record asks for one. -/
theorem Record.primaryKey_notMem_inserts {r : Record} (hs : r.schema.Sound) :
    r.schema.primaryKey ∉ r.inserts ↔ Table.wantsKey r = true := by
  have kept : (r.schema.fields.get r.schema.primaryKey).isPersisted = true := hs.keyPersisted
  have carried : r.schema.primaryKey ∈ r.inserts ↔ Table.wantsKey r = false :=
    mem_inserts.trans ⟨fun h => h.2 rfl, fun brings => ⟨kept, fun _ => brings⟩⟩
  rw [carried, Bool.not_eq_false]

/-- The indexes that an update sets: those of the fields that have a column, less the key. -/
def Schema.updates (s : Schema) : List (Fin s.fields.length) :=
  (List.finRange s.fields.length).filter fun i =>
    (s.fields.get i).isPersisted && i ≠ s.primaryKey

theorem Schema.mem_updates {s : Schema} {i : Fin s.fields.length} : i ∈ s.updates ↔
    (s.fields.get i).isPersisted = true ∧ i ≠ s.primaryKey := by
  unfold updates
  rw [List.mem_filter]
  simp

/-- A record that was stored keeps the values of another one at some indexes. -/
structure Record.Keeps (r : Record) (is : List (Fin r.schema.fields.length)) (stored : Record) :
    Prop where
  schema : stored.schema = r.schema
  values : ∀ i ∈ is, stored.values[i.val]? = some (r.value i)

/-- A value is a number that no signed one equals. -/
def Value.Exceeds (v : Value) (n : UInt64) : Prop := v = .uint n ∧ Decimal.maxInt64 < n.toNat

/-- Values are bound, one after the other, for the values of a record at some indexes. -/
def Record.BoundAs (r : Record) (is : List (Fin r.schema.fields.length)) (bs : List Bind) : Prop :=
  List.Forall₂ (fun i b => Bind.ofValue (r.value i) = .ok b) is bs

/-- A failure is the objection to a value that cannot be bound, at one of some indexes. -/
def Record.OutOfRange (r : Record) (is : List (Fin r.schema.fields.length)) (e : Failure) : Prop :=
  ∃ i ∈ is, ∃ n, (r.value i).Exceeds n ∧ e = .badRequest (.outOfRange n)

theorem Record.OutOfRange.mono {r : Record} {is js : List (Fin r.schema.fields.length)}
    {e : Failure} (h : r.OutOfRange is e) (sub : is ⊆ js) : r.OutOfRange js e := by
  obtain ⟨i, hi, n, exceeds, rfl⟩ := h
  exact ⟨i, sub hi, n, exceeds, rfl⟩

/-- Only numbers that no signed one equals cannot be bound. -/
theorem Bind.fails_ofValue (v : Value) :
    Fails (fun e => ∃ n, v.Exceeds n ∧ e = .badRequest (.outOfRange n)) (Bind.ofValue v) := by
  cases v with
  | uint n =>
    simp only [Bind.ofValue]
    split
    · exact fails_ok _
    · rename_i great
      exact fails_error ⟨n, ⟨rfl, Nat.lt_of_not_le great⟩, rfl⟩
  | _ => exact fails_ok _

theorem Bind.ofValue_ne_ok {v : Value} {n : UInt64} (h : v.Exceeds n) (b : Bind) :
    Bind.ofValue v ≠ .ok b := by
  obtain ⟨rfl, great⟩ := h
  simp [Bind.ofValue, Nat.not_le_of_lt great]

namespace Statement

variable {r : Record}

/-! ## Tokens by index -/

namespace Intended

/-- Parts are numbered by their places. -/
theorem numbered_map {α β : Type} (part : Nat → β → List Token) (f : α → β) (n : Nat)
    (as : List α) : numbered part n (as.map f) = as.mapIdx fun k a => part (n + k + 1) (f a) := by
  induction as generalizing n with
  | nil => rfl
  | cons a as ih =>
    rw [List.map_cons, numbered, ih, List.mapIdx_cons]
    simp only [Nat.add_zero, Nat.add_assoc, Nat.add_comm 1]

/-- The insertion of fields: their columns, and as many placeholders, each with the cast of the
field in its place. -/
def insertion (s : Schema) (is : List (Fin s.fields.length)) : List Token :=
  [.word "INSERT", .word "INTO", .name s.collection, .opening]
    ++ commas (is.map fun i => [column (s.fields.get i)])
    ++ [.closing, .word "VALUES", .opening]
    ++ commas (is.mapIdx fun k i => slot (k + 1) (s.fields.get i))
    ++ [.closing, .word "RETURNING"] ++ columns s

/-- The update of fields: each column with the placeholder of its place, and the placeholder behind
them for the key. Where there are none, the row with the key is read. -/
def setting (s : Schema) (is : List (Fin s.fields.length)) : List Token :=
  if is.isEmpty then selectById s
  else [.word "UPDATE", .name s.collection, .word "SET"]
    ++ commas (is.mapIdx fun k i =>
      [column (s.fields.get i), .sign "="] ++ slot (k + 1) (s.fields.get i))
    ++ [.word "WHERE", column s.keyField, .sign "="] ++ slot (is.length + 1) s.keyField
    ++ [.word "RETURNING"] ++ columns s

end Intended

/-- The fields that have a column and meet a condition, by their indexes. -/
theorem filter_persisted (s : Schema) (p : Fin s.fields.length → Bool) :
    s.persisted.filter (fun e => p e.1) =
      ((List.finRange s.fields.length).filter fun i => (s.fields.get i).isPersisted && p i).map
        fun i => (i, s.fields.get i) := by
  unfold Schema.persisted Schema.indexed
  rw [List.filter_map, List.filter_map, List.filter_filter]
  refine congrArg (List.map _) (List.filter_congr fun i _ => ?_)
  exact Bool.and_comm ..

theorem inserted_eq (hs : r.schema.Sound) :
    Intended.inserted r.schema r.leavesKey = r.inserts.map r.schema.fields.get := by
  have leaves : r.leavesKey = Table.wantsKey r := by
    unfold Record.leavesKey
    rw [hs.keyPersisted, Bool.true_and]
  have listed := filter_persisted r.schema fun i =>
    !(Table.wantsKey r && decide (i = r.schema.primaryKey))
  unfold Intended.inserted Record.inserts
  rw [leaves, listed, List.map_map]
  refine congrArg (List.map _) (List.filter_congr fun i _ => ?_)
  rw [Bool.and_comm (Table.wantsKey r)]

theorem assigned_eq (s : Schema) : Intended.assigned s = s.updates.map s.fields.get := by
  have listed := filter_persisted s fun i => decide (i ≠ s.primaryKey)
  unfold Intended.assigned Schema.updates
  rw [listed, List.map_map]
  rfl

theorem insert_eq_insertion (hs : r.schema.Sound) :
    Intended.insert r.schema r.leavesKey = Intended.insertion r.schema r.inserts := by
  unfold Intended.insert Intended.insertion
  rw [inserted_eq hs, Intended.numbered_map, List.map_map]
  simp only [Nat.zero_add]
  rfl

theorem update_eq_setting (s : Schema) : Intended.update s = Intended.setting s s.updates := by
  unfold Intended.update Intended.setting Intended.keyed Intended.assignment
  rw [assigned_eq, Intended.numbered_map, List.isEmpty_map, List.length_map]
  simp only [Nat.zero_add, List.append_assoc]
  rfl

/-! ## What is bound -/

/-- What is rendered of a record reads as some tokens and binds its values at some indexes, in their
order, and it is rendered unless one of them cannot be bound. -/
structure Carries (r : Record) (st? : Except Failure Statement)
    (is : List (Fin r.schema.fields.length)) (ts : List Token) : Prop where
  text : ∀ st, st? = .ok st → read? st.text = some ts
  params : ∀ st, st? = .ok st → r.BoundAs is st.params
  fails_iff : (∃ e, st? = .error e) ↔ ∃ i ∈ is, ∃ n, (r.value i).Exceeds n
  failure : ∀ e, st? = .error e → r.OutOfRange is e

theorem carries_of {st? : Except Failure Statement} {is : List (Fin r.schema.fields.length)}
    {ts : List Token} (text : RendersAs st? ts)
    (params : ∀ st, st? = .ok st → r.BoundAs is st.params)
    (failure : Fails (r.OutOfRange is) st?) : Carries r st? is ts := by
  refine ⟨fun st h => (text st h).read, params, ⟨?_, ?_⟩, failure⟩
  · rintro ⟨e, h⟩
    obtain ⟨i, hi, n, exceeds, -⟩ := failure e h
    exact ⟨i, hi, n, exceeds⟩
  · rintro ⟨i, hi, n, exceeds⟩
    cases h : st? with
    | error e => exact ⟨e, rfl⟩
    | ok st =>
      -- what is rendered has bound the value at this index too
      obtain ⟨k, hk⟩ := List.getElem?_of_mem hi
      obtain ⟨b, -, bound⟩ := getElem?_of_forall₂ (params st h) hk
      exact absurd bound (Bind.ofValue_ne_ok exceeds b)

/-- The value at an index is bound, unless it is out of range. -/
theorem fails_bound {is : List (Fin r.schema.fields.length)} {i : Fin r.schema.fields.length}
    (hi : i ∈ is) (f : Field) : Fails (r.OutOfRange is) (bound f (r.value i)) := by
  refine ((Bind.fails_ofValue (r.value i)).map _).mono fun e he => ?_
  obtain ⟨n, exceeds, rfl⟩ := he
  exact ⟨i, hi, n, exceeds, rfl⟩

/-- Parts in a list bind what they bind, one after the other. -/
theorem boundAs_listed {is : List (Fin r.schema.fields.length)} {ps : List (List Piece)}
    (h : List.Forall₂ (fun i p => ∃ b, Bind.ofValue (r.value i) = .ok b ∧ binds p = [b]) is ps) :
    r.BoundAs is (binds (listed ps)) := by
  rw [binds_listed]
  induction h with
  | nil => exact .nil
  | cons hp _ ih =>
    obtain ⟨b, hb, binds⟩ := hp
    rw [List.map_cons, List.flatten_cons, binds]
    exact .cons hb ih

theorem insertion_eq (r : Record) : insertion r =
    (r.inserts.map fun i => (i, r.schema.fields.get i)).mapM fun e => do
      let v ← bound e.2 (r.value e.1)
      return (column e.2, v) := by
  have listed := filter_persisted r.schema fun i =>
    !(decide (i = r.schema.primaryKey) && r.schema.autoKey && r.key.isZero)
  simp only [Bool.and_assoc] at listed
  unfold insertion Record.inserts Table.wantsKey
  simp only [Bool.and_assoc]
  rw [listed]

/-- The cells of an insertion hold, index by index, the column and the value to bind. -/
theorem forall₂_cells {cells : List (Piece × Piece)} (h : insertion r = .ok cells) :
    List.Forall₂ (fun i c => c.1 = column (r.schema.fields.get i) ∧
      ∃ b, Bind.ofValue (r.value i) = .ok b ∧ binds [c.2] = [b]) r.inserts cells := by
  rw [insertion_eq] at h
  refine (List.forall₂_map_left_iff.mp (mapM_eq_ok.mp h)).imp fun i c hc => ?_
  obtain ⟨p, hp, hc⟩ := bind_eq_ok.mp hc
  obtain rfl := pure_eq_ok.mp hc
  obtain ⟨b, hb, rfl⟩ := map_eq_ok.mp hp
  exact ⟨rfl, b, hb, rfl⟩

/-- Columns bind nothing. -/
theorem binds_names {cells : List (Piece × Piece)}
    (h : ∀ c ∈ cells, ∃ f, c.1 = column f) : binds (listed (cells.map fun c => [c.1])) = [] := by
  rw [binds_listed, List.map_map, List.flatten_eq_nil_iff]
  intro l hl
  obtain ⟨c, hc, rfl⟩ := List.mem_map.mp hl
  obtain ⟨f, name⟩ := h c hc
  show binds [c.1] = []
  rw [name]
  rfl

/-- An insertion binds the values of its cells. -/
theorem binds_insert {cells : List (Piece × Piece)} (h : insertion r = .ok cells) :
    binds (listed (cells.map fun c => [c.1])) = [] ∧
    binds ([Piece.word .insertInto, .name r.schema.collection, .opening]
      ++ listed (cells.map fun c => [c.1]) ++ [.closing, .word .values, .opening]
      ++ listed (cells.map fun c => [c.2]) ++ [.closing, .word .returning] ++ columns r.schema)
        = binds (listed (cells.map fun c => [c.2])) := by
  have names : binds (listed (cells.map fun c => [c.1])) = [] := by
    refine binds_names fun c hc => ?_
    obtain ⟨i, -, name, -⟩ := exists_of_forall₂ (forall₂_cells h) hc
    exact ⟨_, name⟩
  have start : binds [.word .insertInto, .name r.schema.collection, .opening] = [] := rfl
  have middle : binds [.closing, .word .values, .opening] = [] := rfl
  have returning : binds [.closing, .word .returning] = [] := rfl
  refine ⟨names, ?_⟩
  simp only [binds_append, start, names, middle, returning, binds_columns, List.nil_append,
    List.append_nil]

theorem params_insert {st : Statement} (h : insert r = .ok st) :
    r.BoundAs r.inserts st.params := by
  obtain ⟨cells, hcells, h⟩ := bind_eq_ok.mp h
  obtain rfl := pure_eq_ok.mp h
  show r.BoundAs _ (binds _)
  rw [(binds_insert hcells).2]
  exact boundAs_listed (List.forall₂_map_right_iff.mpr
    ((forall₂_cells hcells).imp fun i c hc => hc.2))

/-- The fields at some indexes are bound one after the other, unless a value is out of range. -/
theorem fails_mapM_bound {β : Type} (r : Record) (is : List (Fin r.schema.fields.length))
    (part : Fin r.schema.fields.length × Field → Piece → β) :
    Fails (r.OutOfRange is) ((is.map fun i => (i, r.schema.fields.get i)).mapM fun e => do
      let v ← bound e.2 (r.value e.1)
      return part e v) := by
  refine fails_mapM fun e he => ?_
  obtain ⟨i, hi, rfl⟩ := List.mem_map.mp he
  exact (fails_bound hi _).bind fun _ _ => fails_ok _

theorem fails_insert (r : Record) : Fails (r.OutOfRange r.inserts) (insert r) := by
  unfold insert
  rw [insertion_eq]
  exact (fails_mapM_bound r r.inserts fun e v => (column e.2, v)).bind fun _ _ => fails_ok _

/-- **An insertion carries the fields that it inserts.** -/
theorem carries_insert (hs : r.schema.Sound) :
    Carries r (insert r) r.inserts (Intended.insertion r.schema r.inserts) := by
  have text := (spelled_insert r).rendersAs
  rw [insert_eq_insertion hs] at text
  exact carries_of text (fun st => params_insert) (fails_insert r)

theorem sets_eq (r : Record) :
    r.schema.persisted.filter (fun e => e.1 ≠ r.schema.primaryKey)
      = r.schema.updates.map fun i => (i, r.schema.fields.get i) :=
  filter_persisted r.schema fun i => decide (i ≠ r.schema.primaryKey)

/-- Reading a row by its key binds the key alone. -/
theorem binds_selectById (s : Schema) (id : Piece) :
    binds (selection s ++ keyed s id) = binds [id] := by
  rw [binds_append, binds_selection]
  rfl

/-- An update binds the values of its settings, and the key behind them. -/
theorem binds_update (s : Schema) (sets : List (List Piece)) (id : Piece) :
    binds ([Piece.word .update, .name s.collection, .word .set] ++ listed sets ++ keyed s id
      ++ [.word .returning] ++ columns s) = binds (listed sets) ++ binds [id] := by
  have start : binds [.word .update, .name s.collection, .word .set] = [] := rfl
  have key : binds (keyed s id) = binds [id] := rfl
  have returning : binds [.word .returning] = [] := rfl
  simp only [binds_append, start, key, returning, binds_columns, List.nil_append, List.append_nil]

theorem params_update {st : Statement} (h : update r = .ok st) :
    r.BoundAs (r.schema.updates ++ [r.schema.primaryKey]) st.params := by
  obtain ⟨sets, hsets, h⟩ := bind_eq_ok.mp h
  obtain ⟨id, hid, h⟩ := bind_eq_ok.mp h
  obtain ⟨k, hk, rfl⟩ := map_eq_ok.mp hid
  have each : List.Forall₂ (fun i p => ∃ b, Bind.ofValue (r.value i) = .ok b ∧ binds p = [b])
      r.schema.updates sets := by
    rw [sets_eq] at hsets
    refine (List.forall₂_map_left_iff.mp (mapM_eq_ok.mp hsets)).imp fun i p hp => ?_
    obtain ⟨v, hv, hp⟩ := bind_eq_ok.mp hp
    obtain rfl := pure_eq_ok.mp hp
    obtain ⟨b, hb, rfl⟩ := map_eq_ok.mp hv
    exact ⟨b, hb, rfl⟩
  have all : r.BoundAs _ _ :=
    List.rel_append (boundAs_listed each) (List.Forall₂.cons hk .nil)
  split at h
  · rename_i none
    obtain rfl := pure_eq_ok.mp h
    obtain rfl := List.isEmpty_iff.mp none
    show r.BoundAs _ (binds _)
    rw [binds_selectById]
    exact all
  · obtain rfl := pure_eq_ok.mp h
    show r.BoundAs _ (binds _)
    rw [binds_update]
    exact all

theorem fails_update (r : Record) :
    Fails (r.OutOfRange (r.schema.updates ++ [r.schema.primaryKey])) (update r) := by
  have sets := fails_mapM_bound r r.schema.updates fun e v => [column e.2, .word .eq, v]
  rw [← sets_eq] at sets
  refine Fails.bind (sets.mono fun e h => h.mono (List.subset_append_left _ _)) fun _ _ =>
    (fails_bound (List.mem_append_right _ (List.mem_singleton_self _)) _).bind fun _ _ => ?_
  split
  · exact fails_ok _
  · exact fails_ok _

/-- **An update carries the fields that it sets, and the key behind them.** -/
theorem carries_update (r : Record) : Carries r (update r)
    (r.schema.updates ++ [r.schema.primaryKey]) (Intended.setting r.schema r.schema.updates) := by
  have text := (spelled_update r).rendersAs
  rw [update_eq_setting] at text
  exact carries_of text (fun st => params_update) (fails_update r)

end Statement

/-! ## What is kept -/

/-- A key that is given is not the zero that asked for it. -/
theorem Table.isZero_of_assigned {k : Kind} (hk : Descriptor.isKeyKind k = true) {n : Nat}
    {w : Value} (pos : 0 < n) (small : n ≤ Decimal.maxInt64)
    (fits : (assigned k n).coerce? k = some w) : w.isZero = false := by
  have bound : n < 2 ^ 63 := by unfold Decimal.maxInt64 at small; omega
  have value : (Int64.ofNat n).toInt = n := Int64.toInt_ofNat_of_lt bound
  cases k with
  | string =>
    obtain rfl : .string (toString n) = w := by simpa [assigned, Value.coerce?] using fits
    simp [Value.isZero]
  | int =>
    obtain rfl : .int (Int64.ofNat n) = w := by simpa [assigned, Value.coerce?] using fits
    have other : Int64.ofNat n ≠ 0 := fun zero => by
      rw [zero] at value
      simp at value
      omega
    simpa [Value.isZero] using other
  | uint =>
    obtain rfl : .uint (UInt64.ofNat n) = w := by
      simpa [assigned, Value.coerce?, value] using fits
    have wide : (UInt64.ofNat n).toNat = n :=
      UInt64.toNat_ofNat_of_lt' (Nat.lt_trans bound (by decide))
    have other : UInt64.ofNat n ≠ 0 := fun zero => by
      rw [zero] at wide
      simp at wide
      omega
    simpa [Value.isZero] using other
  | _ => simp [Descriptor.isKeyKind] at hk

theorem Record.keeps_stored {r : Record} {is : List (Fin r.schema.fields.length)}
    (persisted : ∀ i ∈ is, (r.schema.fields.get i).isPersisted = true) : r.Keeps is r.stored := by
  refine ⟨rfl, fun i hi => ?_⟩
  rw [r.getElem?_stored (r.schema.getElem?_fields i), if_pos (persisted i hi), r.getElem?_values]

namespace Store

variable {r stored : Record} {st st' : Store}

/-- **An insertion keeps what the statement inserts**, in a row behind all others, and its key is
another than that of the record just if the statement leaves the key out. -/
theorem insert_keeps (hs : r.schema.Sound) (h : Store.insert r st = (.ok stored, st')) :
    r.Keeps r.inserts stored ∧
      (st'.table r.schema.collection).rows = (st.table r.schema.collection).rows ++ [stored] ∧
      (r.schema.primaryKey ∉ r.inserts ↔ stored.key ≠ r.key) := by
  obtain ⟨t, hinsert, tables⟩ := insert_eq_ok h
  rw [tables, if_pos rfl]
  have kept : r.schema.keyField.isPersisted = true := hs.keyPersisted
  rw [Record.primaryKey_notMem_inserts hs]
  rcases Table.insert_cases hinsert with ⟨wants, -, rfl, rfl⟩ | ⟨wants, n, w, free, fits, rfl, rfl⟩
  · have key : r.stored.key = r.key := Record.key_stored kept
    exact ⟨Record.keeps_stored fun i hi => (Record.mem_inserts.mp hi).1, rfl, by simp [wants, key]⟩
  · have key : (r.put r.schema.primaryKey w).stored.key = w :=
      (Record.key_stored (r := r.put r.schema.primaryKey w) kept).trans (r.key_put w)
    obtain ⟨above, within, -⟩ := Table.freeFrom?_eq_some free
    have given : w.isZero = false := Table.isZero_of_assigned hs.keyKind (by omega) (by omega) fits
    refine ⟨⟨rfl, fun i hi => ?_⟩, rfl, iff_of_true wants fun same => ?_⟩
    · obtain ⟨persisted, carried⟩ := Record.mem_inserts.mp hi
      have apart : r.schema.primaryKey.val ≠ i.val := fun same => by
        simp [carried (Fin.ext same.symm)] at wants
      have field := (r.put r.schema.primaryKey w).getElem?_stored (r.schema.getElem?_fields i)
      rw [field, if_pos persisted, r.getElem?_put, if_neg apart, r.getElem?_values]
    · -- the key that asked for another one is zero
      have zero : r.key.isZero = true := (Bool.and_eq_true_iff.mp wants).2
      rw [← same, key, given] at zero
      exact absurd zero (by simp)

/-- **An update keeps what the statement sets**, and the key, in the first row with the key. -/
theorem update_keeps (hs : r.schema.Sound) (h : Store.update r st = (.ok stored, st')) :
    r.Keeps (r.schema.updates ++ [r.schema.primaryKey]) stored ∧
      ∃ k old, Table.FirstWith (st.table r.schema.collection).rows r.key k old ∧
        (st'.table r.schema.collection).rows
          = (st.table r.schema.collection).rows.set k stored := by
  obtain ⟨t, hupdate, tables⟩ := update_eq_ok h
  obtain ⟨rfl, k, old, first, rows⟩ := Table.update_spec hupdate
  rw [tables, if_pos rfl]
  refine ⟨Record.keeps_stored fun i hi => ?_, k, old, first, rows⟩
  rcases List.mem_append.mp hi with hi | hi
  · exact (Schema.mem_updates.mp hi).1
  · rw [List.mem_singleton.mp hi]
    exact hs.keyPersisted

end Store

namespace Statement

/-- **Statements write what a store keeps.** An insertion has a column for every field that has
one, in order, less the key where the store assigns it; an update sets all of them but the key, and
finds the row by the key, which is bound last. Column, placeholder and bound value at a place belong
to one field, whose value the store keeps when it does the same; and a statement can be rendered
unless a value it binds is a number that no signed one equals. -/
theorem writes_carry {r : Record} (resolved : r.schema.Resolved) :
    Carries r (insert r) r.inserts (Intended.insertion r.schema r.inserts) ∧
    Carries r (update r) (r.schema.updates ++ [r.schema.primaryKey])
      (Intended.setting r.schema r.schema.updates) ∧
    (∀ st stored st', Store.insert r st = (.ok stored, st') →
      r.Keeps r.inserts stored ∧
      (st'.table r.schema.collection).rows = (st.table r.schema.collection).rows ++ [stored] ∧
      (r.schema.primaryKey ∉ r.inserts ↔ stored.key ≠ r.key)) ∧
    ∀ st stored st', Store.update r st = (.ok stored, st') →
      r.Keeps (r.schema.updates ++ [r.schema.primaryKey]) stored ∧
      ∃ k old, Table.FirstWith (st.table r.schema.collection).rows r.key k old ∧
        (st'.table r.schema.collection).rows
          = (st.table r.schema.collection).rows.set k stored :=
  ⟨carries_insert resolved.sound, carries_update r,
    fun _ _ _ => Store.insert_keeps resolved.sound, fun _ _ _ => Store.update_keeps resolved.sound⟩

theorem writes_carry_blankNote :
    (Record.blank note).schema.Resolved ∧
    (Record.blank note).inserts.map Fin.val = [1, 2, 3, 4, 5] ∧
    (∃ st, insert (Record.blank note) = .ok st ∧ st.params.length = 5 ∧
      read? st.text = some (Intended.insertion note (Record.blank note).inserts)) ∧
    (∃ st, update (Record.blank note) = .ok st ∧ st.params.length = 6 ∧
      read? st.text = some (Intended.setting note note.updates)) ∧
    ∃ stored st', Store.insert (Record.blank note) .empty = (.ok stored, st') ∧
      (Record.blank note).Keeps (Record.blank note).inserts stored ∧
      stored.key ≠ (Record.blank note).key := by
  obtain ⟨inserting, updating, keeps, -⟩ := writes_carry (r := Record.blank note) resolved_note
  obtain ⟨st, rendered⟩ : ∃ st, insert (Record.blank note) = .ok st := ⟨_, rfl⟩
  obtain ⟨st', rendered'⟩ : ∃ st, update (Record.blank note) = .ok st := ⟨_, rfl⟩
  refine ⟨resolved_note, by decide, ⟨st, rendered, ?_, inserting.text st rendered⟩,
    ⟨st', rendered', ?_, updating.text st' rendered'⟩, _, _, rfl, ?_⟩
  · exact (inserting.params st rendered).length_eq.symm
  · exact (updating.params st' rendered').length_eq.symm
  · obtain ⟨kept, -, key⟩ := keeps .empty _ _ rfl
    exact ⟨kept, key.mp (by decide)⟩

end Statement

end Registrar
