/-!
# Entries: association lists in ascending key order

Objects, verdicts and the tables of a store are keyed by text. `Entries` keeps such a mapping as
a list of pairs; `put` writes one key and leaves every other as it was (`get?_put`), and keeps
the keys strictly ascending (`ascending_put`), so that two mappings built by `put` that answer
alike are written alike. The order is by code point, which is also the order of the UTF-8 bytes.
-/

namespace Registrar

/-- Values by key, the keys ascending. -/
abbrev Entries (α : Type) := List (String × α)

namespace Entries

variable {α : Type}

/-- The value under `k`. -/
def get? : Entries α → String → Option α
  | [], _ => none
  | (j, a) :: rest, k => if j = k then some a else get? rest k

/-- Write `a` under `k`: insert it in its place, or replace what was there. -/
def put : Entries α → String → α → Entries α
  | [], k, a => [(k, a)]
  | (j, b) :: rest, k, a =>
    if k < j then (k, a) :: (j, b) :: rest
    else if j = k then (k, a) :: rest
    else (j, b) :: put rest k a

/-- The mapping with the given pairs; of two pairs with one key the later stays. -/
def ofPairs (pairs : List (String × α)) : Entries α :=
  pairs.foldl (fun m e => put m e.1 e.2) []

/-- The keys, in order. -/
def keys (m : Entries α) : List String := m.map Prod.fst

/-- Strictly ascending keys. -/
def Ascending (m : Entries α) : Prop := m.keys.Pairwise (· < ·)

/-! ## Lemmas -/

theorem get?_put (m : Entries α) (k q : String) (a : α) :
    get? (put m k a) q = if k = q then some a else get? m q := by
  induction m with
  | nil => simp [put, get?]
  | cons e rest ih =>
    obtain ⟨j, b⟩ := e
    simp only [put]
    split
    · simp [get?]
    · split
      · rename_i hj
        subst hj
        by_cases hq : j = q <;> simp [get?, hq]
      · rename_i hj
        simp only [get?, ih]
        by_cases hq : j = q
        · subst hq
          simp [Ne.symm hj]
        · simp [hq]

@[simp] theorem get?_put_self (m : Entries α) (k : String) (a : α) :
    get? (put m k a) k = some a := by simp [get?_put]

theorem get?_put_of_ne {m : Entries α} {k q : String} {a : α} (h : k ≠ q) :
    get? (put m k a) q = get? m q := by simp [get?_put, h]

/-- Of two writes under one key the later one stays. -/
theorem put_put (m : Entries α) (k : String) (a b : α) : put (put m k a) k b = put m k b := by
  have here (rest : Entries α) : put ((k, a) :: rest) k b = (k, b) :: rest := by
    rw [put, if_neg (String.lt_irrefl k), if_pos rfl]
  induction m with
  | nil => exact here []
  | cons e rest ih =>
    obtain ⟨j, c⟩ := e
    simp only [put]
    split
    · exact here _
    · split
      · exact here _
      · rename_i before same
        simp [put, before, same, ih]

theorem mem_keys_put {m : Entries α} {k q : String} {a : α} (h : q ∈ (put m k a).keys) :
    q = k ∨ q ∈ m.keys := by
  induction m with
  | nil => simpa [put, keys] using h
  | cons e rest ih =>
    obtain ⟨j, b⟩ := e
    simp only [put] at h
    split at h
    · simpa [keys] using h
    · split at h
      · rename_i hj
        simp only [keys, List.map_cons, List.mem_cons] at h ⊢
        rcases h with h | h
        · exact Or.inl h
        · exact Or.inr (Or.inr h)
      · simp only [keys, List.map_cons, List.mem_cons] at h ⊢
        rcases h with h | h
        · exact Or.inr (Or.inl h)
        · rcases ih h with h | h
          · exact Or.inl h
          · exact Or.inr (Or.inr h)

theorem ascending_put {m : Entries α} {k : String} {a : α} (h : Ascending m) :
    Ascending (put m k a) := by
  induction m with
  | nil => simp [put, Ascending, keys]
  | cons e rest ih =>
    obtain ⟨j, b⟩ := e
    have hrest : Ascending rest := (List.pairwise_cons.mp h).2
    have hj : ∀ q ∈ keys rest, j < q := (List.pairwise_cons.mp h).1
    simp only [put]
    split
    · rename_i hk
      refine List.pairwise_cons.mpr ⟨?_, h⟩
      intro q hq
      rcases List.mem_cons.mp hq with rfl | hq
      · exact hk
      · exact String.lt_trans hk (hj q hq)
    · split
      · rename_i hjk
        subst hjk
        exact List.pairwise_cons.mpr ⟨hj, hrest⟩
      · rename_i hk hjk
        refine List.pairwise_cons.mpr ⟨?_, ih hrest⟩
        intro q hq
        rcases mem_keys_put hq with rfl | hq
        · exact Std.lt_of_le_of_ne (Std.not_lt.mp hk) hjk
        · exact hj q hq

end Entries

end Registrar
