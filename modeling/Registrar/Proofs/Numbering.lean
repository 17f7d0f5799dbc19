import Mathlib.Data.List.Nodup
import Mathlib.Data.List.Perm.Subperm
import Mathlib.Order.Bounds.Basic
import Registrar.Proofs.Lookups

/-!
# Numbers given as keys

A record that comes without a key is given the least number above the counter whose key no row has.
Different numbers make different keys, so among the numbers above the counter no more are taken than
there are rows, and the search ends within one more: the bound on it is never what stops it, as long
as there are numbers left. The number that is found is the counter from then on. Nothing else
moves the counter, so the numbers given in a collection rise over every run, whatever keys records
bring along.

* `Table.freeFrom?_eq_some_iff`: the search finds the first free number, within its span.
* `Table.le_length_of_holds`: no more numbers in a row are taken than there are rows.
* `Store.Call.given_cases`: what a call gives, and what it leaves the counter at.
* `Store.numbers_rise`: which number a record is given, and that they rise.
-/

namespace Registrar

namespace Table

variable {t : Table} {k : Kind} {n m span : Nat} {r : Record}

/-! ## Keys made of numbers -/

/-- Numbers are keys as they are, or by their decimal text. -/
theorem hasKind_assigned (hk : k = .int ∨ k = .string) (n : Nat) : (assigned k n).HasKind k := by
  rcases hk with rfl | rfl <;> trivial

theorem isKeyKind_of_numbered (hk : k = .int ∨ k = .string) : Descriptor.isKeyKind k = true := by
  rcases hk with rfl | rfl <;> rfl

theorem coerce?_assigned (hk : k = .int ∨ k = .string) (n : Nat) :
    (assigned k n).coerce? k = some (assigned k n) := by
  rcases hk with rfl | rfl <;> simp [assigned, Value.coerce?]

/-- Different numbers make different keys. -/
theorem assigned_inj (hn : n ≤ Decimal.maxInt64) (hm : m ≤ Decimal.maxInt64)
    (same : assigned k n = assigned k m) : n = m := by
  unfold assigned at same
  split at same
  · exact Nat.repr_inj.mp (Value.string.inj same)
  · have value : ∀ l ≤ Decimal.maxInt64, (Int64.ofNat l).toInt = l := fun l hl =>
      Int64.toInt_ofNat_of_lt (by unfold Decimal.maxInt64 at hl; omega)
    have ints := congrArg Int64.toInt (Value.int.inj same)
    rw [value n hn, value m hm] at ints
    exact Int.ofNat.inj ints

/-! ## The search -/

/-- **The search finds the first free number**, if it is within the span. -/
theorem freeFrom?_eq_some_iff : t.freeFrom? k span n = some m ↔
    n < m ∧ m ≤ n + span ∧ t.holds (assigned k m) = false ∧
      ∀ l, n < l → l < m → t.holds (assigned k l) = true := by
  constructor
  · intro found
    obtain ⟨above, within, free⟩ := freeFrom?_eq_some found
    exact ⟨above, within, free, holds_of_lt_freeFrom? found⟩
  · rintro ⟨above, within, free, taken⟩
    cases found : t.freeFrom? k span n with
    | none =>
      rw [holds_of_freeFrom?_eq_none found m above within] at free
      exact absurd free (by simp)
    | some l =>
      obtain ⟨above', -, free'⟩ := freeFrom?_eq_some found
      -- of two first numbers neither comes before the other
      rcases Nat.lt_trichotomy l m with before | rfl | after
      · rw [taken l above' before] at free'
        exact absurd free' (by simp)
      · rfl
      · rw [holds_of_lt_freeFrom? found m above after] at free
        exact absurd free (by simp)

section Rows

variable (hk : k = .int ∨ k = .string) (kinds : ∀ q ∈ t.rows, q.key.HasKind k)

include hk kinds

/-- **No more numbers in a row are taken than there are rows.** -/
theorem le_length_of_holds (far : n + span ≤ Decimal.maxInt64)
    (taken : ∀ m, n < m → m ≤ n + span → t.holds (assigned k m) = true) :
    span ≤ t.rows.length := by
  have apart : ((List.range' (n + 1) span).map (assigned k)).Nodup := by
    refine List.Nodup.map_on (fun l hl m hm same => ?_) List.nodup_range'
    have hl := List.mem_range'_1.mp hl
    have hm := List.mem_range'_1.mp hm
    exact assigned_inj (by omega) (by omega) same
  have held : (List.range' (n + 1) span).map (assigned k) ⊆ t.keys := by
    intro key hkey
    obtain ⟨m, hm, rfl⟩ := List.mem_map.mp hkey
    have hm := List.mem_range'_1.mp hm
    obtain ⟨row, hrow, key⟩ := (holds_iff (isKeyKind_of_numbered hk) (hasKind_assigned hk m)
      kinds).mp (taken m (by omega) (by omega))
    exact List.mem_map.mpr ⟨row, hrow, key⟩
  have fewer := (apart.subperm held).length_le
  simpa [keys] using fewer

/-- **One more number than there are rows is enough to try**, and trying more finds the same. -/
theorem exists_freeFrom? (far : n + t.rows.length < Decimal.maxInt64) :
    ∃ m ≤ n + (t.rows.length + 1), ∀ span, t.rows.length < span →
      t.freeFrom? k span n = some m := by
  cases found : t.freeFrom? k (t.rows.length + 1) n with
  | none =>
    have fewer := le_length_of_holds hk kinds (by omega) (holds_of_freeFrom?_eq_none found)
    omega
  | some m =>
    obtain ⟨above, within, first⟩ := freeFrom?_eq_some_iff.mp found
    exact ⟨m, within, fun span wide =>
      freeFrom?_eq_some_iff.mpr ⟨above, by omega, first⟩⟩

/-- The first free number is the least one that is no row's key. -/
theorem isLeast_of_freeFrom? (found : t.freeFrom? k span n = some m) :
    IsLeast {m | n < m ∧ ∀ row ∈ t.rows, row.key ≠ assigned k m} m := by
  have held := fun m => holds_iff (isKeyKind_of_numbered hk) (hasKind_assigned hk m) kinds
  obtain ⟨above, -, free, taken⟩ := freeFrom?_eq_some_iff.mp found
  refine ⟨⟨above, fun row hrow key => ?_⟩, fun l ⟨above', fresh⟩ => ?_⟩
  · rw [(held m).mpr ⟨row, hrow, key⟩] at free
    exact absurd free (by simp)
  · by_contra before
    obtain ⟨row, hrow, key⟩ := (held l).mp (taken l above' (Nat.lt_of_not_le before))
    exact fresh row hrow key

/-- **What a record without a key is given**: the first free number, which the counter goes to. -/
theorem insert_numbered (hs : r.schema.Sound) (own : r.schema.keyField.kind = k)
    (wants : wantsKey r = true) (far : t.counter + t.rows.length < Decimal.maxInt64) :
    ∃ n stored t', t.insert r = .ok (stored, t') ∧ stored.key = assigned k n ∧ t'.counter = n ∧
      n ≤ t.counter + (t.rows.length + 1) ∧
      ∀ span, t.rows.length < span → t.freeFrom? k span t.counter = some n := by
  obtain ⟨n, within, found⟩ := exists_freeFrom? hk kinds far
  have next : t.nextNumber? k = some n := found _ (by omega)
  subst own
  rcases t.insert_of_wantsKey hs wants with ⟨none, -⟩ | ⟨n', w, next', fits, ok⟩
  · rw [next] at none
    exact absurd none (by simp)
  · obtain rfl := Option.some.inj (next.symm.trans next')
    obtain rfl := Option.some.inj ((coerce?_assigned hk n).symm.trans fits)
    have persisted : (r.put r.schema.primaryKey
        (assigned r.schema.keyField.kind n)).schema.keyField.isPersisted = true := hs.keyPersisted
    refine ⟨n, _, _, ok, ?_, rfl, within, found⟩
    rw [Record.key_stored persisted, r.key_put]

end Rows

end Table

namespace Store

/-! ## The numbers of a run -/

/-- The key that a call gives to its record in a collection, if it gives one. -/
def Call.given (c : String) (st : Store) : Call → List Value
  | .insert r =>
    if r.schema.collection = c ∧ Table.wantsKey r = true then
      match (Store.insert r st).1 with
      | .ok stored => [stored.key]
      | .error _ => []
    else []
  | .update _ => []
  | .find _ _ => []
  | .select _ _ => []

/-- The keys that calls give in a collection, one call after the other. -/
def givenKeys (c : String) : List Call → Store → List Value
  | [], _ => []
  | call :: rest, st => call.given c st ++ givenKeys c rest (call.perform st)

variable {writers : List Schema} {st st' : Store} {r stored : Record} {c : String} {k : Kind}

theorem Call.perform_insert {answer : Except Failure Record}
    (h : Store.insert r st = (answer, st')) : (Call.insert r).perform st = st' :=
  congrArg Prod.snd h

theorem Call.perform_update {answer : Except Failure Record}
    (h : Store.update r st = (answer, st')) : (Call.update r).perform st = st' :=
  congrArg Prod.snd h

theorem Call.given_of_ok (h : Store.insert r st = (.ok stored, st')) : (Call.insert r).given c st =
    if r.schema.collection = c ∧ Table.wantsKey r = true then [stored.key] else [] := by
  simp only [given, h]

theorem Call.given_of_error {failure : Failure} (h : Store.insert r st = (.error failure, st')) :
    (Call.insert r).given c st = [] := by
  simp only [given, h, ite_self]

/-- Another collection's insertion, and one of a record with a key, leave the counter. -/
theorem counter_of_insert (h : Store.insert r st = (.ok stored, st'))
    (other : ¬ (r.schema.collection = c ∧ Table.wantsKey r = true)) :
    (st'.table c).counter = (st.table c).counter := by
  obtain ⟨t, hinsert, tables⟩ := insert_eq_ok h
  rw [tables]
  split
  · rename_i here
    subst here
    rcases Table.insert_cases hinsert with ⟨-, -, -, rfl⟩ | ⟨wants, -⟩
    · rfl
    · exact absurd ⟨rfl, wants⟩ other
  · rfl

theorem counter_of_update (h : Store.update r st = (.ok stored, st')) :
    (st'.table c).counter = (st.table c).counter := by
  obtain ⟨t, hupdate, tables⟩ := update_eq_ok h
  rw [tables]
  split
  · rename_i here
    subst here
    unfold Table.update at hupdate
    split at hupdate
    · obtain ⟨-, rfl⟩ := Prod.mk.inj (Except.ok.inj hupdate)
      rfl
    · exact absurd hupdate (by simp)
  · rfl

/-- An insertion that gives a key moves the counter to its number, which is above the counter. -/
theorem number_of_insert (hs : r.schema.Sound) (here : r.schema.collection = c)
    (own : r.schema.keyField.kind = k) (wants : Table.wantsKey r = true)
    (h : Store.insert r st = (.ok stored, st')) :
    (Table.assigned k (st'.table c).counter).coerce? k = some stored.key ∧
      (st.table c).counter < (st'.table c).counter ∧
      (st'.table c).counter ≤ Decimal.maxInt64 := by
  subst here own
  obtain ⟨t, hinsert, tables⟩ := insert_eq_ok h
  rw [tables, if_pos rfl]
  rcases Table.insert_cases hinsert with ⟨keyed, -⟩ | ⟨-, n, w, next, fits, rfl, rfl⟩
  · rw [wants] at keyed
    exact absurd keyed (by simp)
  · have persisted : (r.put r.schema.primaryKey w).schema.keyField.isPersisted = true :=
      hs.keyPersisted
    rw [Record.key_stored persisted, r.key_put]
    exact ⟨fits, (Table.freeFrom?_eq_some next).1, (Table.nextNumber?_eq_some next).1⟩

section Collection

variable (sound : ∀ s ∈ writers, s.Sound)
  (kinds : ∀ s ∈ writers, s.collection = c → s.keyField.kind = k)

include sound kinds

/-- **What a call gives**: nothing, and the counter stays, or the key made of the number that the
counter goes to. -/
theorem Call.given_cases {call : Call} (byWriters : call.By writers) (st : Store) :
    (call.given c st = [] ∧ ((call.perform st).table c).counter = (st.table c).counter) ∨
    ∃ key, call.given c st = [key] ∧
      (Table.assigned k ((call.perform st).table c).counter).coerce? k = some key ∧
      (st.table c).counter < ((call.perform st).table c).counter ∧
      ((call.perform st).table c).counter ≤ Decimal.maxInt64 := by
  cases call with
  | insert r =>
    rcases answer : Store.insert r st with ⟨failure | stored, st'⟩
    · rw [given_of_error answer, perform_insert answer, change_eq_error answer]
      exact .inl ⟨rfl, rfl⟩
    · rw [given_of_ok answer, perform_insert answer]
      by_cases wants : r.schema.collection = c ∧ Table.wantsKey r = true
      · rw [if_pos wants]
        exact .inr ⟨stored.key, rfl, number_of_insert (sound _ byWriters.1) wants.1
          (kinds _ byWriters.1 wants.1) wants.2 answer⟩
      · rw [if_neg wants]
        exact .inl ⟨rfl, counter_of_insert answer wants⟩
  | update r =>
    rcases answer : Store.update r st with ⟨failure | stored, st'⟩
    · rw [perform_update answer, change_eq_error answer]
      exact .inl ⟨rfl, rfl⟩
    · rw [perform_update answer]
      exact .inl ⟨rfl, counter_of_update answer⟩
  | find s id => exact .inl ⟨rfl, rfl⟩
  | select s q => exact .inl ⟨rfl, rfl⟩

/-- **The numbers of a run rise** from the counter it begins with to the one it ends with. -/
theorem numbers_of_run : ∀ {calls : List Call} (st : Store), (∀ call ∈ calls, call.By writers) →
    ∃ numbers : List Nat,
      List.Forall₂ (fun n key => (Table.assigned k n).coerce? k = some key) numbers
        (givenKeys c calls st) ∧
      ((st.table c).counter :: numbers).Pairwise (· < ·) ∧
      (∀ n ∈ numbers, n ≤ Decimal.maxInt64)
  | [], st, _ => ⟨[], .nil, List.pairwise_singleton _ _, fun n hn => absurd hn List.not_mem_nil⟩
  | call :: rest, st, byWriters => by
    obtain ⟨first, later⟩ := List.forall_mem_cons.mp byWriters
    obtain ⟨numbers, fit, rise, small⟩ := numbers_of_run (call.perform st) later
    unfold givenKeys
    rcases call.given_cases sound kinds first st with
      ⟨given, counter⟩ | ⟨key, given, fits, above, le⟩
    · rw [given, List.nil_append, ← counter]
      exact ⟨numbers, fit, rise, small⟩
    · rw [given]
      refine ⟨_, .cons fits fit, ?_, List.forall_mem_cons.mpr ⟨le, small⟩⟩
      refine List.pairwise_cons.mpr ⟨fun n hn => ?_, rise⟩
      rcases List.mem_cons.mp hn with rfl | hn
      · exact above
      · exact Nat.lt_trans above (List.rel_of_pairwise_cons rise hn)

end Collection

/-- **Numbers rise.** In a collection whose resources all have keys of one kind, whole numbers or
texts, and in every state that calls can lead to: a record that is to be given a key is stored, as
long as numbers are left, under the least number above the counter that is the key of no row, which
is found among one more candidates than there are rows, however many more the search may try; over
any further calls the numbers given rise, and stay above all that were given before; and an
insertion that fails leaves the counter, with all of the store, as it was. -/
theorem numbers_rise (hw : ∀ s ∈ writers, s.Resolved) (hst : Reachable writers st)
    (hk : k = .int ∨ k = .string)
    (kinds : ∀ s ∈ writers, s.collection = c → s.keyField.kind = k) :
    (∀ r, r.schema ∈ writers → r.schema.collection = c → r.WellTyped →
      r.schema.autoKey = true → r.key.isZero = true →
      (st.table c).counter + (st.table c).rows.length < Decimal.maxInt64 →
      ∃ n stored st', Store.insert r st = (.ok stored, st') ∧
        stored.key = Table.assigned k n ∧ (st'.table c).counter = n ∧
        IsLeast {n | (st.table c).counter < n ∧
          ∀ row ∈ (st.table c).rows, row.key ≠ Table.assigned k n} n ∧
        n ≤ (st.table c).counter + ((st.table c).rows.length + 1) ∧
        ∀ span, (st.table c).rows.length < span →
          (st.table c).freeFrom? k span (st.table c).counter = some n) ∧
    (∀ calls : List Call, (∀ call ∈ calls, call.By writers) →
      ∃ numbers : List Nat, givenKeys c calls st = numbers.map (Table.assigned k) ∧
        ((st.table c).counter :: numbers).Pairwise (· < ·) ∧
        ∀ n ∈ numbers, n ≤ Decimal.maxInt64) ∧
    ∀ r failure st', Store.insert r st = (.error failure, st') → st' = st := by
  have sound : ∀ s ∈ writers, s.Sound := fun s hs => (hw s hs).sound
  have rows : ∀ q ∈ (st.table c).rows, q.key.HasKind k := by
    intro q hq
    obtain ⟨schema, collection, typed, -⟩ := rowsOf_of_run sound hst c q hq
    rw [← kinds _ schema collection]
    exact typed.key
  refine ⟨fun r hr here _ auto zero far => ?_, fun calls byWriters => ?_,
    fun r failure st' failed => change_eq_error failed⟩
  · subst here
    have wants : Table.wantsKey r = true := by
      unfold Table.wantsKey
      rw [auto, zero]
      rfl
    obtain ⟨n, stored, t', ok, key, counter, within, found⟩ :=
      Table.insert_numbered hk rows (sound _ hr) (kinds _ hr rfl) wants far
    refine ⟨n, stored, _, change_of_ok ok, key, ?_,
      Table.isLeast_of_freeFrom? hk rows (found _ (Nat.lt_succ_self _)), within, found⟩
    rw [st.table_putTable, if_pos rfl]
    exact counter
  · obtain ⟨numbers, fit, rise, small⟩ := numbers_of_run sound kinds st byWriters
    refine ⟨numbers, ?_, rise, small⟩
    have equal : List.Forall₂ (· = ·) (numbers.map (Table.assigned k)) (givenKeys c calls st) :=
      List.forall₂_map_left_iff.mpr (fit.imp fun n key fits =>
        Option.some.inj ((Table.coerce?_assigned hk n).symm.trans fits))
    rw [List.forall₂_eq_eq_eq] at equal
    exact equal.symm

/-- The number after the first note's is 2, and the one after that passes over the key 3. -/
theorem numbers_rise_twoNotes :
    (∀ s ∈ [note], s.Resolved) ∧ Reachable [note] twoNotes ∧
    (twoNotes.table "note").keys = [.int 3, .int 1] ∧
    (∃ stored st', Store.insert (.blank note) twoNotes = (.ok stored, st') ∧
      stored.key = .int 2 ∧ (st'.table "note").counter = 2) ∧
    ∃ numbers : List Nat, numbers.map (Table.assigned .int) = [.int 2, .int 4] ∧
      givenKeys "note" [.insert (.blank note), .insert (.blank note)] twoNotes =
        numbers.map (Table.assigned .int) ∧ (1 :: numbers).Pairwise (· < ·) := by
  have resolved : ∀ s ∈ [note], s.Resolved := fun s hs =>
    List.mem_singleton.mp hs ▸ resolved_note
  have kinds : ∀ s ∈ [note], s.collection = "note" → s.keyField.kind = .int := fun s hs _ =>
    List.mem_singleton.mp hs ▸ rfl
  obtain ⟨given, rises, -⟩ := numbers_rise resolved reachable_twoNotes (.inl rfl) kinds
  refine ⟨resolved, reachable_twoNotes, rfl, ?_, ?_⟩
  · obtain ⟨n, stored, st', ok, key, counter, -, -, found⟩ := given (.blank note)
      (List.mem_singleton_self note) rfl (Record.wellTyped_blank note) rfl rfl (by decide)
    obtain rfl : 2 = n := Option.some.inj (found 3 (by decide))
    exact ⟨stored, st', ok, key, counter⟩
  · obtain ⟨numbers, keys, rise, -⟩ := rises [.insert (.blank note), .insert (.blank note)]
      fun call hcall => by
        rcases List.mem_pair.mp hcall with rfl | rfl <;>
          exact ⟨List.mem_singleton_self note, Record.wellTyped_blank note⟩
    exact ⟨numbers, keys.symm, keys, rise⟩

end Store

end Registrar
