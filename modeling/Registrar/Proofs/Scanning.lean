import Registrar.Query.Compile

/-!
# Reading parameters in one pass

Parameters are taken in one after the other, with the keys met so far at hand. What the pass makes
of them can be said without it: the order, the window and the choice of fields are the first values
of their keys, and the conditions are those of the parameters whose key occurs for the first time,
in their order. An order that is refused is the answer wherever it stands, since nothing else can be
refused.

* `Query.mem_firsts_iff`: of parameters with one key the first counts.
* **`Query.scan_eq`**: what the pass makes of a query.
-/

namespace Registrar.Query

variable {s : Schema} {seen : List String} {params rest : List (String × String)}
  {k key v value : String}

/-! ## Parameters that count -/

/-- Parameters, without those whose key occurred before; `seen` holds the keys met so far. -/
def firsts : List String → List (String × String) → List (String × String)
  | _, [] => []
  | seen, (key, value) :: rest =>
    if seen.contains key then firsts seen rest else (key, value) :: firsts (key :: seen) rest

/-- **Of parameters with one key the first counts**, unless the key was met before. -/
theorem mem_firsts_iff : ∀ {params : List (String × String)} {seen : List String}
    {key value : String}, (key, value) ∈ firsts seen params ↔
      key ∉ seen ∧ params.lookup key = some value
  | [], seen, key, value => by simp [firsts]
  | (k, v) :: rest, seen, key, value => by
    unfold firsts
    by_cases met : k ∈ seen
    · rw [if_pos (List.contains_iff_mem.mpr met), mem_firsts_iff]
      refine and_congr_right fun fresh => ?_
      have other : key ≠ k := fun same => fresh (same ▸ met)
      rw [List.lookup_cons, beq_false_of_ne other]
    · rw [if_neg (by simpa using met), List.mem_cons, mem_firsts_iff, List.lookup_cons]
      by_cases same : key = k
      · subst same
        simp [met, eq_comm]
      · rw [beq_false_of_ne same]
        simp [same]

theorem nodup_firsts : ∀ (params : List (String × String)) (seen : List String),
    ((firsts seen params).map (·.1)).Nodup
  | [], _ => List.nodup_nil
  | (k, v) :: rest, seen => by
    unfold firsts
    split
    · exact nodup_firsts rest seen
    · refine List.nodup_cons.mpr ⟨fun again => ?_, nodup_firsts rest _⟩
      obtain ⟨⟨key, value⟩, hmem, rfl⟩ := List.mem_map.mp again
      exact (mem_firsts_iff.mp hmem).1 List.mem_cons_self

/-- The first value of a key, unless the key was met before. -/
def first? (seen : List String) (params : List (String × String)) (key : String) : Option String :=
  if key ∈ seen then none else params.lookup key

theorem first?_nil (params : List (String × String)) (key : String) :
    first? [] params key = params.lookup key :=
  if_neg List.not_mem_nil

theorem first?_of_met (met : key ∈ seen) (params : List (String × String)) :
    first? seen params key = none :=
  if_pos met

theorem first?_cons_of_met (met : k ∈ seen) (v : String) (rest : List (String × String))
    (key : String) : first? seen ((k, v) :: rest) key = first? seen rest key := by
  unfold first?
  split
  · rfl
  · rename_i fresh
    have other : key ≠ k := fun same => fresh (same ▸ met)
    rw [List.lookup_cons, beq_false_of_ne other]

theorem first?_cons_self (fresh : k ∉ seen) (v : String) (rest : List (String × String)) :
    first? seen ((k, v) :: rest) k = some v := by
  unfold first?
  rw [if_neg fresh, List.lookup_cons_self]

theorem first?_cons_of_ne (other : key ≠ k) (v : String) (rest : List (String × String)) :
    first? seen ((k, v) :: rest) key = first? (k :: seen) rest key := by
  unfold first?
  rw [List.lookup_cons, beq_false_of_ne other]
  simp [other]

/-! ## The pass -/

/-- The order that a value asks for, if there is one. -/
def reordered (s : Schema) (q : Query) : Option String → Except Fault (Option Order)
  | some value => (s.order value).map some
  | none => .ok q.order

/-- A query with what parameters ask for, of which those count whose key is not in `seen`. -/
def entered (s : Schema) (seen : List String) (q : Query) (params : List (String × String)) :
    Except Fault Query :=
  (reordered s q (first? seen params "q-order")).map fun order =>
    { conditions := q.conditions ++ (firsts seen params).filterMap fun p => s.condition? p.1 p.2
      order := order
      limit := ((first? seen params "q-limit").map (count defaultLimit)).getD q.limit
      offset := ((first? seen params "q-offset").map (count 0)).getD q.offset
      fields := ((first? seen params "q-fields").map keyList).or q.fields }

theorem entered_nil (q : Query) : entered s seen q [] = .ok q := by
  have none : ∀ key, first? seen [] key = none := fun key => ite_self _
  simp only [entered, none, firsts, List.filterMap_nil, List.append_nil, Option.map_none,
    Option.getD_none, Option.none_or]
  rfl

theorem entered_cons_of_met (met : k ∈ seen) (q : Query) :
    entered s seen q ((k, v) :: rest) = entered s seen q rest := by
  have passed : firsts seen ((k, v) :: rest) = firsts seen rest := by
    rw [firsts, if_pos (List.contains_iff_mem.mpr met)]
  simp only [entered, passed, first?_cons_of_met met]

/-- What is asked for under four keys makes no condition. -/
theorem condition?_of_reserved (s : Schema) (v : String) :
    s.condition? "q-order" v = none ∧ s.condition? "q-limit" v = none ∧
      s.condition? "q-offset" v = none ∧ s.condition? "q-fields" v = none :=
  ⟨rfl, rfl, rfl, rfl⟩

/-- Taking in a parameter whose key is new leaves the rest to be taken in. -/
theorem entered_cons_of_fresh (fresh : k ∉ seen) (q : Query) :
    entered s seen q ((k, v) :: rest) =
      enter s q k v >>= fun q => entered s (k :: seen) q rest := by
  have counts : firsts seen ((k, v) :: rest) = (k, v) :: firsts (k :: seen) rest := by
    rw [firsts, if_neg (by simpa using fresh)]
  have self := first?_cons_self fresh v rest
  have met := first?_of_met (seen.mem_cons_self (a := k)) rest
  have other : ∀ key, key ≠ k →
      first? seen ((k, v) :: rest) key = first? (k :: seen) rest key :=
    fun key h => first?_cons_of_ne h v rest
  obtain ⟨order, limit, offset, fields⟩ := condition?_of_reserved s v
  unfold enter
  split
  · show _ = ((s.order v).map _ >>= _)
    cases ho : s.order v with
    | error fault =>
      simp only [entered, reordered, self, ho]
      rfl
    | ok o =>
      show _ = entered s ("q-order" :: seen) { q with order := some o } rest
      simp [entered, reordered, counts, self, met, other, order, ho, Except.map]
  · show _ = entered s _ _ rest
    simp [entered, reordered, counts, self, met, other, limit]
  · show _ = entered s _ _ rest
    simp [entered, reordered, counts, self, met, other, offset]
  · show _ = entered s _ _ rest
    simp [entered, reordered, counts, self, met, other, fields]
  · rename_i noOrder noLimit noOffset noFields
    have order := other "q-order" (Ne.symm noOrder)
    have limit := other "q-limit" (Ne.symm noLimit)
    have offset := other "q-offset" (Ne.symm noOffset)
    have fields := other "q-fields" (Ne.symm noFields)
    cases asked : s.condition? k v with
    | some c =>
      show _ = entered s _ _ rest
      simp [entered, reordered, counts, asked, order, limit, offset, fields]
    | none =>
      show _ = entered s _ _ rest
      simp [entered, reordered, counts, asked, order, limit, offset, fields]

/-- **What the pass makes of a query** is what those parameters ask for that count. -/
theorem scan_eq (s : Schema) (params : List (String × String)) (seen : List String) (q : Query) :
    scan s seen q params = entered s seen q params := by
  induction params generalizing seen q with
  | nil => exact (entered_nil q).symm
  | cons p rest ih =>
    obtain ⟨k, v⟩ := p
    by_cases met : k ∈ seen
    · rw [scan, if_pos (List.contains_iff_mem.mpr met), ih, entered_cons_of_met met]
    · rw [scan, if_neg (by simpa using met), entered_cons_of_fresh met]
      exact congrArg _ (funext fun q => ih (k :: seen) q)

end Registrar.Query
