import Mathlib.Data.List.Nodup
import Mathlib.Data.List.Perm.Subperm
import Registrar.Pattern.Basic

/-!
# What a pattern matches

A match of a pattern begins at one place of a text and ends at another (`Matches`): a character
takes one place, an anchor takes none and asks something of the place it stands at, and a
repetition is a number of matches in a row. This says nothing of how matches are looked for.

They are looked for with sets of places, kept as lists without doubles (`Listed`). A function on
such lists can stand for a relation between places (`Computes`), and whatever a pattern is made of
keeps that. Two shortcuts of the search need an argument. A repetition by a fixed number stops as
soon as a step leads back to the places it came from, since no further step leads elsewhere. A
repetition without a bound goes on from fresh places only, for no more rounds than there are
places: a round without fresh ones shows that the places seen are closed (`Explored`), and after as
many rounds as there are places all of them are seen.

* `computes_iterate`: a fixed number of steps in a row.
* `Explored.mem_reach`: up to a number of steps, from fresh places only.
* `Explored.mem_reach_of_rounds`: any number of steps, where the rounds are as many as the places.
* `computes_step`: the places where a match ends that begins at one of some places.
* **`found_iff`**: a pattern is found in a text if and only if it has a match there.
-/

namespace Registrar.Pattern

/-! ## Matches -/

/-- A number of steps of a relation in a row lead from one place to another. -/
def Repeats (R : Nat → Nat → Prop) : Nat → Nat → Nat → Prop
  | 0, i, j => i = j
  | n + 1, i, k => ∃ j, R i j ∧ Repeats R n j k

/-- A match of a pattern goes from place `i` of a text to place `j`. A repetition's
bound below the least number asked for counts as that number. -/
def Matches (t : Array Char) : Pattern → Nat → Nat → Prop
  | .empty, i, j => i = j
  | .char set, i, j => (∃ c, t[i]? = some c ∧ set.contains c = true) ∧ j = i + 1
  | .anchor a, i, j => a.holds t i = true ∧ i = j
  | .cat p q, i, k => ∃ j, Matches t p i j ∧ Matches t q j k
  | .alt p q, i, j => Matches t p i j ∨ Matches t q i j
  | .group _ p, i, j => Matches t p i j
  | .times p least most _, i, j =>
    ∃ n, least ≤ n ∧ (∀ m ∈ most, n ≤ max least m) ∧ Repeats (Matches t p) n i j

variable {R S : Nat → Nat → Prop} {f g : List Nat → List Nat} {places seen frontier : List Nat}
variable {last n m i j k : Nat}

theorem repeats_one : Repeats R 1 i j ↔ R i j := by simp [Repeats]

theorem repeats_add : Repeats R (n + m) i k ↔ ∃ j, Repeats R n i j ∧ Repeats R m j k := by
  induction n generalizing i with
  | zero => simp [Repeats]
  | succ n ih =>
    rw [Nat.add_right_comm]
    simp only [Repeats, ih]
    constructor
    · rintro ⟨h, step, j, first, second⟩
      exact ⟨j, ⟨h, step, first⟩, second⟩
    · rintro ⟨j, ⟨h, step, first⟩, second⟩
      exact ⟨h, step, j, first, second⟩

/-- What a relation leads to from a closed set of places is in the set. -/
theorem Repeats.mem_of_closed (closed : ∀ i ∈ places, ∀ j, R i j → j ∈ places)
    (steps : Repeats R n i j) (hi : i ∈ places) : j ∈ places := by
  induction n generalizing i with
  | zero => exact steps ▸ hi
  | succ n ih =>
    obtain ⟨k, step, later⟩ := steps
    exact ih later (closed i hi k step)

/-- A set of places that one step leads back to is what any number of steps leads back to. -/
theorem mem_iff_repeats (fixed : ∀ j, j ∈ places ↔ ∃ i ∈ places, R i j) (n j : Nat) :
    j ∈ places ↔ ∃ i ∈ places, Repeats R n i j := by
  constructor
  · intro hj
    induction n generalizing j with
    | zero => exact ⟨j, hj, rfl⟩
    | succ n ih =>
      obtain ⟨k, hk, step⟩ := (fixed j).mp hj
      obtain ⟨i, hi, before⟩ := ih k hk
      exact ⟨i, hi, repeats_add.mpr ⟨k, before, repeats_one.mpr step⟩⟩
  · rintro ⟨i, hi, steps⟩
    exact steps.mem_of_closed (fun i hi j step => (fixed j).mpr ⟨i, hi, step⟩) hi

/-- Steps from where a number of steps leads are steps after that number. -/
theorem repeats_from {Q : Nat → Prop} :
    (∃ j, (∃ i ∈ places, Repeats R m i j) ∧ ∃ n, Q n ∧ Repeats R n j k) ↔
      ∃ i ∈ places, ∃ n, m ≤ n ∧ Q (n - m) ∧ Repeats R n i k := by
  constructor
  · rintro ⟨j, ⟨i, hi, before⟩, n, hn, after⟩
    refine ⟨i, hi, m + n, Nat.le_add_right m n, ?_, repeats_add.mpr ⟨j, before, after⟩⟩
    rwa [Nat.add_sub_cancel_left]
  · rintro ⟨i, hi, n, enough, hn, steps⟩
    obtain ⟨l, rfl⟩ := Nat.exists_eq_add_of_le enough
    obtain ⟨j, before, after⟩ := repeats_add.mp steps
    rw [Nat.add_sub_cancel_left] at hn
    exact ⟨j, ⟨i, hi, before⟩, l, hn, after⟩

/-! ## Sets of places -/

/-- Places up to the last one, none of them twice. -/
structure Listed (last : Nat) (places : List Nat) : Prop where
  nodup : places.Nodup
  le : ∀ i ∈ places, i ≤ last

theorem Listed.filter (h : Listed last places) (p : Nat → Bool) : Listed last (places.filter p) :=
  ⟨h.nodup.filter p, fun i hi => h.le i (List.mem_of_mem_filter hi)⟩

theorem Listed.append {others : List Nat} (h : Listed last places) (h' : Listed last others)
    (apart : ∀ i ∈ others, i ∉ places) : Listed last (places ++ others) := by
  refine ⟨h.nodup.append h'.nodup fun i hi hi' => apart i hi' hi, fun i hi => ?_⟩
  rcases List.mem_append.mp hi with hi | hi
  · exact h.le i hi
  · exact h'.le i hi

/-- The places up to the last one are one more than its number. -/
theorem Listed.subset_of_length (h : Listed last places) (full : last + 1 ≤ places.length) :
    ∀ i ≤ last, i ∈ places := by
  intro i hi
  have sub : places ⊆ List.range (last + 1) := fun j hj =>
    List.mem_range.mpr (Nat.lt_succ_of_le (h.le j hj))
  have perm : places.Perm (List.range (last + 1)) :=
    (h.nodup.subperm sub).perm_of_length_le (by simpa using full)
  exact perm.mem_iff.mpr (List.mem_range.mpr (Nat.lt_succ_of_le hi))

theorem mem_iff_of_samePlaces {a b : List Nat} (ha : a.Nodup) (same : samePlaces a b = true) :
    j ∈ a ↔ j ∈ b := by
  simp only [samePlaces, Bool.and_eq_true, beq_iff_eq, List.all_eq_true,
    List.contains_iff_mem] at same
  obtain ⟨length, sub⟩ := same
  exact ((ha.subperm sub).perm_of_length_le (Nat.le_of_eq length.symm)).mem_iff

theorem mem_join {a b : List Nat} : j ∈ join a b ↔ j ∈ a ∨ j ∈ b := by
  by_cases h : j ∈ a <;> simp [join, h]

/-- A function on lists of places leads where a relation leads from one of them. -/
structure Computes (last : Nat) (f : List Nat → List Nat) (R : Nat → Nat → Prop) : Prop where
  listed : ∀ {places}, Listed last places → Listed last (f places)
  mem : ∀ {places j}, Listed last places → (j ∈ f places ↔ ∃ i ∈ places, R i j)

theorem computes_id : Computes last id fun i j => i = j where
  listed h := h
  mem _ := by simp

theorem Computes.comp (hf : Computes last f R) (hg : Computes last g S) :
    Computes last (g ∘ f) fun i k => ∃ j, R i j ∧ S j k where
  listed h := hg.listed (hf.listed h)
  mem {places k} h := by
    rw [Function.comp_apply, hg.mem (hf.listed h)]
    simp only [hf.mem h]
    constructor
    · rintro ⟨j, ⟨i, hi, first⟩, second⟩
      exact ⟨i, hi, j, first, second⟩
    · rintro ⟨i, hi, j, first, second⟩
      exact ⟨j, ⟨i, hi, first⟩, second⟩

theorem Computes.join (hf : Computes last f R) (hg : Computes last g S) :
    Computes last (fun places => join (f places) (g places)) fun i j => R i j ∨ S i j where
  listed h := (hf.listed h).append ((hg.listed h).filter _) fun j hj => by
    simpa using List.of_mem_filter hj
  mem h := by
    simp only [mem_join, hf.mem h, hg.mem h]
    constructor
    · rintro (⟨i, hi, step⟩ | ⟨i, hi, step⟩)
      · exact ⟨i, hi, .inl step⟩
      · exact ⟨i, hi, .inr step⟩
    · rintro ⟨i, hi, step | step⟩
      · exact .inl ⟨i, hi, step⟩
      · exact .inr ⟨i, hi, step⟩

/-- No step leads beyond the last place. -/
theorem Computes.le (hf : Computes last f R) (hi : i ≤ last) (step : R i j) : j ≤ last := by
  have alone : Listed last [i] := ⟨List.nodup_singleton i, by simpa using hi⟩
  exact (hf.listed alone).le j ((hf.mem alone).mpr ⟨i, List.mem_singleton_self i, step⟩)

/-! ## A fixed number of steps -/

/-- **A fixed number of steps in a row.** -/
theorem computes_iterate (hf : Computes last f R) : ∀ n, Computes last (iterate f n) (Repeats R n)
  | 0 => computes_id
  | n + 1 => by
    have later := computes_iterate hf n
    constructor
    · intro places h
      simp only [iterate]
      split
      · exact hf.listed h
      · exact later.listed (hf.listed h)
    · intro places j h
      simp only [iterate]
      split
      · rename_i same
        -- the steps left out lead from these places to the same places
        have fixed : ∀ j, j ∈ places ↔ ∃ i ∈ places, R i j := fun j =>
          (mem_iff_of_samePlaces (hf.listed h).nodup same).symm.trans (hf.mem h)
        exact (mem_iff_of_samePlaces (hf.listed h).nodup same).trans
          (mem_iff_repeats fixed (n + 1) j)
      · exact (hf.comp later).mem h

/-! ## Steps from fresh places -/

/-- The places that one more step leads to for the first time. -/
def fresh (f : List Nat → List Nat) (seen frontier : List Nat) : List Nat :=
  (f frontier).filter (!seen.contains ·)

theorem reach_succ (rounds : Nat) : reach f (rounds + 1) seen frontier =
    if fresh f seen frontier = [] then seen
    else reach f rounds (seen ++ fresh f seen frontier) (fresh f seen frontier) := by
  rw [reach]
  split
  · rename_i none
    exact (if_pos (show fresh f seen frontier = [] from none)).symm
  · rename_i some
    exact (if_neg (show fresh f seen frontier ≠ [] from some)).symm

/-- Only the places of the frontier may have steps to places that are not seen. -/
structure Explored (last : Nat) (R : Nat → Nat → Prop) (seen frontier : List Nat) : Prop where
  known : Listed last seen
  edge : Listed last frontier
  sub : ∀ i ∈ frontier, i ∈ seen
  closed : ∀ i ∈ seen, ∀ j, R i j → j ∈ seen ∨ i ∈ frontier

namespace Explored

theorem start (h : Listed last places) : Explored last R places places :=
  ⟨h, h, fun _ hi => hi, fun _ hi _ _ => .inr hi⟩

variable (hf : Computes last f R) (h : Explored last R seen frontier)

include hf h

theorem mem_fresh : j ∈ fresh f seen frontier ↔ (∃ i ∈ frontier, R i j) ∧ j ∉ seen := by
  simp [fresh, hf.mem h.edge]

theorem mem_append_fresh (hi : i ∈ seen) (step : R i j) : j ∈ seen ++ fresh f seen frontier := by
  by_cases known : j ∈ seen
  · exact List.mem_append_left _ known
  · have new : i ∈ frontier := (h.closed i hi j step).resolve_left known
    exact List.mem_append_right _ ((h.mem_fresh hf).mpr ⟨⟨i, new, step⟩, known⟩)

/-- A round of the search. -/
theorem advance :
    Explored last R (seen ++ fresh f seen frontier) (fresh f seen frontier) where
  known := h.known.append ((hf.listed h.edge).filter _) fun _ hi => ((h.mem_fresh hf).mp hi).2
  edge := (hf.listed h.edge).filter _
  sub _ hi := List.mem_append_right _ hi
  closed i hi j step := by
    rcases List.mem_append.mp hi with hi | hi
    · exact .inl (h.mem_append_fresh hf hi step)
    · exact .inr hi

/-- Where a round finds nothing, the places seen are closed. -/
theorem closed_of_fresh (none : fresh f seen frontier = []) :
    ∀ i ∈ seen, ∀ j, R i j → j ∈ seen := by
  intro i hi j step
  have hj := h.mem_append_fresh hf hi step
  rwa [none, List.append_nil] at hj

theorem listed_reach (rounds : Nat) : Listed last (reach f rounds seen frontier) := by
  induction rounds generalizing seen frontier with
  | zero => exact h.known
  | succ rounds ih =>
    rw [reach_succ]
    split
    · exact h.known
    · exact ih (h.advance hf)

/-- **The search goes as many steps as it has rounds.** -/
theorem mem_reach (rounds : Nat) :
    j ∈ reach f rounds seen frontier ↔ ∃ i ∈ seen, ∃ n ≤ rounds, Repeats R n i j := by
  induction rounds generalizing seen frontier with
  | zero => simp [reach, Repeats]
  | succ rounds ih =>
    rw [reach_succ]
    split
    · rename_i none
      constructor
      · intro hj
        exact ⟨j, hj, 0, Nat.zero_le _, rfl⟩
      · rintro ⟨i, hi, n, -, steps⟩
        exact steps.mem_of_closed (h.closed_of_fresh hf none) hi
    · rw [ih (h.advance hf)]
      constructor
      · rintro ⟨k, hk, n, hn, steps⟩
        rcases List.mem_append.mp hk with hk | hk
        · exact ⟨k, hk, n, by omega, steps⟩
        · obtain ⟨⟨i, hi, step⟩, -⟩ := (h.mem_fresh hf).mp hk
          exact ⟨i, h.sub i hi, n + 1, by omega, k, step, steps⟩
      · rintro ⟨i, hi, n, hn, steps⟩
        cases n with
        | zero => exact ⟨i, List.mem_append_left _ hi, 0, Nat.zero_le _, steps⟩
        | succ n =>
          obtain ⟨k, step, steps⟩ := steps
          exact ⟨k, h.mem_append_fresh hf hi step, n, by omega, steps⟩

/-- With as many rounds as there are places yet to be seen, the search ends in a closed set. -/
theorem closed_reach (rounds : Nat) (enough : last + 1 ≤ seen.length + rounds) :
    ∀ i ∈ reach f rounds seen frontier, ∀ j, R i j → j ∈ reach f rounds seen frontier := by
  induction rounds generalizing seen frontier with
  | zero =>
    intro i hi j step
    exact h.known.subset_of_length enough j (hf.le (h.known.le i hi) step)
  | succ rounds ih =>
    rw [reach_succ]
    split
    · rename_i none
      exact h.closed_of_fresh hf none
    · rename_i some
      -- a round that goes on has seen at least one place more
      have grown : 0 < (fresh f seen frontier).length := List.length_pos_of_ne_nil some
      exact ih (h.advance hf) (by rw [List.length_append]; omega)

/-- **With as many rounds as places, the search goes any number of steps.** -/
theorem mem_reach_of_rounds (rounds : Nat) (enough : last + 1 ≤ seen.length + rounds) :
    j ∈ reach f rounds seen frontier ↔ ∃ i ∈ seen, ∃ n, Repeats R n i j := by
  constructor
  · intro hj
    obtain ⟨i, hi, n, -, steps⟩ := (h.mem_reach hf rounds).mp hj
    exact ⟨i, hi, n, steps⟩
  · rintro ⟨i, hi, n, steps⟩
    have known : i ∈ reach f rounds seen frontier :=
      (h.mem_reach hf rounds).mpr ⟨i, hi, 0, Nat.zero_le _, rfl⟩
    exact steps.mem_of_closed (h.closed_reach hf rounds enough) known

end Explored

/-! ## Patterns -/

variable {t : Array Char} {p q : Pattern}

theorem mem_step_char {set : CharSet} :
    j ∈ step t (.char set) places ↔ ∃ i ∈ places, Matches t (.char set) i j := by
  simp only [step, Matches, List.mem_filterMap, Option.ite_none_right_eq_some, Option.some.injEq,
    Option.any_eq_true, eq_comm (a := j)]

theorem computes_char (t : Array Char) (set : CharSet) :
    Computes t.size (step t (.char set)) (Matches t (.char set)) where
  listed {places} h := by
    constructor
    · refine h.nodup.filterMap fun i i' j hj hj' => ?_
      simp only [Option.mem_def, Option.ite_none_right_eq_some, Option.some.injEq] at hj hj'
      omega
    · intro j hj
      obtain ⟨i, -, ⟨c, read, -⟩, rfl⟩ := mem_step_char.mp hj
      exact (Array.getElem?_eq_some_iff.mp read).1
  mem _ := mem_step_char

theorem computes_anchor (t : Array Char) (a : Anchor) :
    Computes t.size (step t (.anchor a)) (Matches t (.anchor a)) where
  listed h := h.filter _
  mem h := by
    simp [step, Matches, and_comm]

theorem computes_times (hp : Computes t.size (step t p) (Matches t p)) (least : Nat)
    (most : Option Nat) (greedy : Bool) :
    Computes t.size (step t (.times p least most greedy))
      (Matches t (.times p least most greedy)) where
  listed h := (Explored.start ((computes_iterate hp least).listed h)).listed_reach hp _
  mem {places k} h := by
    have first := computes_iterate hp least
    have explored : Explored t.size (Matches t p) _ _ := .start (first.listed h)
    simp only [step, Matches]
    cases most with
    | none =>
      rw [Option.elim_none, explored.mem_reach_of_rounds hp _ (by omega)]
      simpa [first.mem h] using repeats_from (Q := fun _ => True)
    | some bound =>
      rw [Option.elim_some, explored.mem_reach hp]
      simp only [first.mem h, repeats_from, Option.mem_some_iff, forall_eq']
      refine exists_congr fun i => and_congr_right fun _ => exists_congr fun n =>
        and_congr_right fun enough => and_congr_left fun _ => ?_
      omega

/-- **The search computes where matches end.** -/
theorem computes_step (t : Array Char) (p : Pattern) :
    Computes t.size (step t p) (Matches t p) := by
  induction p with
  | empty => exact computes_id
  | char set => exact computes_char t set
  | anchor a => exact computes_anchor t a
  | cat p q hp hq => exact hp.comp hq
  | alt p q hp hq => exact hp.join hq
  | group _ p hp => exact hp
  | times p least most greedy hp => exact computes_times hp least most greedy

/-- **A pattern is found in a text if and only if it has a match there.** -/
theorem found_iff {s : String} :
    p.found s = true ↔ ∃ i ≤ s.length, ∃ j, Matches s.toList.toArray p i j := by
  have everywhere : Listed s.length (List.range (s.length + 1)) :=
    ⟨List.nodup_range, fun i hi => Nat.le_of_lt_succ (List.mem_range.mp hi)⟩
  have search := computes_step s.toList.toArray p
  rw [List.size_toArray, String.length_toList] at search
  rw [found, List.size_toArray, String.length_toList, Bool.not_eq_true',
    List.isEmpty_eq_false_iff_exists_mem]
  simp only [search.mem everywhere, List.mem_range, Nat.lt_succ_iff]
  constructor
  · rintro ⟨j, i, hi, h⟩
    exact ⟨i, hi, j, h⟩
  · rintro ⟨i, hi, j, h⟩
    exact ⟨j, i, hi, h⟩

/-- What has the same matches is found in the same texts. -/
theorem found_congr (h : ∀ t, Matches t p = Matches t q) (s : String) : p.found s = q.found s := by
  rw [Bool.eq_iff_iff, found_iff, found_iff, h]

/-- Where three patterns follow one another, it does not matter which two of them are one part. -/
theorem matches_cat_assoc (t : Array Char) (p q r : Pattern) :
    Matches t (.cat (.cat p q) r) = Matches t (.cat p (.cat q r)) := by
  funext i l
  simp only [Matches, eq_iff_iff]
  constructor
  · rintro ⟨k, ⟨j, first, second⟩, third⟩
    exact ⟨j, first, k, second, third⟩
  · rintro ⟨j, first, k, second, third⟩
    exact ⟨k, ⟨j, first, second⟩, third⟩

end Registrar.Pattern
