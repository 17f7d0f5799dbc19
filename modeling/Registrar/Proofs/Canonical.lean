import Registrar.Proofs.Compiling

/-!
# What a query does not depend on

A query lists its conditions in the order of conditions, which tells any two apart. So it depends on
what parameters ask for and not on how they are laid out: what counts is the first value of each
key, and of keys that are dropped (`Schema.Drops`) not even that.

* `Condition.sort_eq_of_perm`: conditions have one way to be listed in order.
* `Schema.unmatched_iff`: why a key asks for no condition.
* **`Query.compile_canonical`**: parameters with the same first values make the same query, or are
  refused alike.
-/

namespace Registrar

/-! ## Conditions in order -/

namespace Condition

instance : Std.TransCmp compare := by
  unfold compare
  infer_instance

theorem rank_injective {op op' : Operator} (h : op.rank = op'.rank) : op = op' := by
  cases op <;> cases op' <;> first | rfl | exact absurd h (by decide)

theorem eq_of_literals {a b : Operand} (hrank : a.rank = b.rank) (h : a.literals = b.literals) :
    a = b := by
  cases a <;> cases b <;> simp_all [Operand.rank, Operand.literals]

/-- **The order of conditions tells any two apart.** -/
theorem eq_of_compare {a b : Condition} (h : compare a b = .eq) : a = b := by
  unfold compare at h
  simp only [compareLex_eq_eq, compareOn, Std.LawfulEqOrd.compare_eq_iff_eq] at h
  obtain ⟨field, operator, rank, literals⟩ := h
  obtain ⟨_, _, _⟩ := a
  obtain ⟨_, _, _⟩ := b
  obtain rfl := field
  obtain rfl := rank_injective operator
  obtain rfl := eq_of_literals rank literals
  rfl

/-- Whether a condition must come before another. -/
def before (a b : Condition) : Bool := compare a b == .lt

theorem before_eq_false_iff {a b : Condition} : before a b = false ↔ (compare b a).isLE = true := by
  have swap : compare a b = (compare b a).swap := Std.OrientedCmp.eq_swap
  unfold before
  rw [swap]
  cases compare b a <;> decide

theorem eq_of_isLE {a b : Condition} (h : (compare a b).isLE = true)
    (h' : (compare b a).isLE = true) : a = b := by
  have swap : compare a b = (compare b a).swap := Std.OrientedCmp.eq_swap
  refine eq_of_compare ?_
  rw [swap] at h ⊢
  revert h h'
  cases compare b a <;> decide

theorem weak_before : Sorting.Weak before fun _ => True where
  asymm a b _ _ h := by
    have swap : compare b a = (compare a b).swap := Std.OrientedCmp.eq_swap
    unfold before at h ⊢
    rw [swap, eq_of_beq h]
    rfl
  trans a b c _ _ _ hab hbc := by
    rw [before_eq_false_iff] at hab hbc ⊢
    exact Std.TransCmp.isLE_trans hbc hab

/-- Conditions are listed in order. -/
theorem pairwise_sort (l : List Condition) :
    (sort l).Pairwise fun a b => (compare a b).isLE = true :=
  (Sorting.pairwise_sort weak_before fun _ _ => trivial).imp fun h => before_eq_false_iff.mp h

/-- **Conditions have one way to be listed in order.** -/
theorem sort_eq_of_perm {l l' : List Condition} (h : l.Perm l') : sort l = sort l' :=
  List.Perm.eq_of_pairwise (fun _ _ _ _ => eq_of_isLE) (pairwise_sort l) (pairwise_sort l')
    (((Sorting.perm_sort _ l).trans h).trans (Sorting.perm_sort _ l').symm)

end Condition

/-! ## Keys that are dropped -/

/-- Why a key asks for no condition: it has more than two parts, or a word in front that is no
operator, or its last part is not the name of a field with a column. -/
inductive Schema.Unmatched (s : Schema) (key : String) : Prop where
  | parts (long : 2 < (Text.split '-' key).length)
  | operator {word text : String} (parts : Text.split '-' key = [word, text])
    (unknown : ∀ op, (word, op) ∉ Operator.words)
  | field {text : String} (last : (Text.split '-' key).getLast? = some text)
    (missing : ∀ i, ¬ s.Filterable text i)

/-- The keys by which parameters ask for an order, a window and a choice of fields. -/
def Query.reserved : List String := ["q-order", "q-limit", "q-offset", "q-fields"]

/-- Whether parameters with a key are dropped. -/
def Schema.Drops (s : Schema) (key : String) : Prop := key ∉ Query.reserved ∧ s.Unmatched key

namespace Schema

variable {s : Schema} {key : String}

/-- **The keys that ask for no condition** are those that are not understood. -/
theorem unmatched_iff : s.Unmatched key ↔ ¬ s.Understands key := by
  constructor
  · intro unmatched understood
    -- what is understood has one part, the field, or two, an operator and the field
    have cut : ∃ text i, s.Filterable text i ∧ (Text.split '-' key = [text] ∨
        ∃ word op, (word, op) ∈ Operator.words ∧ Text.split '-' key = [word, text]) := by
      rcases understood with ⟨i, hi⟩ | ⟨word, op, text, i, known, hi, rfl⟩
      · exact ⟨key, i, hi, .inl (Text.split_eq_singleton_iff.mpr ⟨rfl, hi.dashFree⟩)⟩
      · exact ⟨text, i, hi, .inr ⟨word, op, known,
          Text.split_eq_pair_iff.mpr ⟨Operator.dashFree_of_words known, hi.dashFree, rfl⟩⟩⟩
    obtain ⟨text, i, hi, parts⟩ := cut
    cases unmatched with
    | parts long =>
      rcases parts with parts | ⟨_, _, _, parts⟩
      all_goals
        rw [parts] at long
        exact absurd long (by simp)
    | operator parts' unknown =>
      rcases parts with parts | ⟨word, op, known, parts⟩
      · exact absurd (parts'.symm.trans parts) (by simp)
      · obtain ⟨rfl, -⟩ := List.cons.inj (parts'.symm.trans parts)
        exact unknown op known
    | field last missing =>
      rcases parts with parts | ⟨_, _, _, parts⟩
      all_goals
        rw [parts] at last
        obtain rfl : text = _ := by simpa using last
        exact missing i hi
  · intro unknown
    match parts : Text.split '-' key with
    | [] => exact absurd parts (Text.split_eq_iff.not.mpr (by simp))
    | [text] =>
      obtain ⟨rfl, -⟩ := Text.split_eq_singleton_iff.mp parts
      exact .field (by rw [parts]; rfl) fun i hi => unknown (.inl ⟨i, hi⟩)
    | [word, text] =>
      by_cases known : ∃ op, (word, op) ∈ Operator.words
      · obtain ⟨op, known⟩ := known
        obtain ⟨-, -, joined⟩ := Text.split_eq_pair_iff.mp parts
        exact .field (by rw [parts]; rfl) fun i hi =>
          unknown (.inr ⟨word, op, text, i, known, hi, joined⟩)
      · exact .operator parts fun op h => known ⟨op, h⟩
    | _ :: _ :: _ :: _ => exact .parts (by rw [parts]; simp)

end Schema

/-! ## Parameters with the same first values -/

namespace Query

variable {s : Schema} {params params' : List (String × String)}

/-- What is asked for depends on the first value of each key that is not dropped. -/
theorem perm_asked (h : ∀ key, ¬ s.Drops key → params.lookup key = params'.lookup key) :
    (asked s params).Perm (asked s params') := by
  refine (List.perm_ext_iff_of_nodup (nodup_asked s params).of_map
    (nodup_asked s params').of_map).mpr fun (key, c) => ?_
  have same : ∀ value, s.Asks value key c → params.lookup key = params'.lookup key := by
    intro value asks
    refine h key fun dropped => ?_
    exact Schema.unmatched_iff.mp dropped.2 (Schema.exists_asks_iff.mp ⟨c, asks⟩)
  rw [mem_asked_iff, mem_asked_iff]
  constructor
  · rintro ⟨value, first, asks⟩
    exact ⟨value, (same value asks).symm.trans first, asks⟩
  · rintro ⟨value, first, asks⟩
    exact ⟨value, (same value asks).trans first, asks⟩

theorem compile_congr (h : ∀ key, ¬ s.Drops key → params.lookup key = params'.lookup key) :
    compile s params = compile s params' := by
  have first : ∀ key ∈ reserved, params.lookup key = params'.lookup key := fun key hkey =>
    h key fun dropped => dropped.1 hkey
  have order : orderAsked s params = orderAsked s params' := by
    unfold orderAsked
    rw [first "q-order" (by decide)]
  have conditions : (unordered s params).conditions = (unordered s params').conditions := by
    rw [unordered_conditions, unordered_conditions]
    exact Condition.sort_eq_of_perm ((perm_asked h).map _)
  have rest : unordered s params = unordered s params' := by
    unfold unordered at conditions ⊢
    rw [first "q-limit" (by decide), first "q-offset" (by decide), first "q-fields" (by decide)]
    exact congrArg (fun listed => (⟨listed, none, _, _, _⟩ : Query)) conditions
  rw [compile_eq, compile_eq, order, rest]

/-- Where keys do not repeat, the value of a key is the one it stands with. -/
theorem lookup_eq_some_iff_mem (hn : (params.map (·.1)).Nodup) {key value : String} :
    params.lookup key = some value ↔ (key, value) ∈ params := by
  induction params with
  | nil => simp
  | cons p rest ih =>
    obtain ⟨k, v⟩ := p
    obtain ⟨fresh, hrest⟩ := List.nodup_cons.mp hn
    rw [List.lookup_cons, List.mem_cons]
    by_cases same : key = k
    · subst same
      have absent : (key, value) ∉ rest := fun h => fresh (List.mem_map.mpr ⟨_, h, rfl⟩)
      simp [absent, eq_comm]
    · rw [beq_false_of_ne same]
      simpa [same] using ih hrest

theorem lookup_insert {before after : List (String × String)} {key value : String} {k : String}
    (h : k = key → (before.lookup k).isSome = true) :
    (before ++ (key, value) :: after).lookup k = (before ++ after).lookup k := by
  rw [List.lookup_append, List.lookup_append, List.lookup_cons]
  by_cases same : k = key
  · obtain ⟨v, hv⟩ := Option.isSome_iff_exists.mp (h same)
    rw [hv]
    rfl
  · rw [beq_false_of_ne same]

/-- **A query depends on first values alone.** Parameters that give the same first value to every
key that is not dropped make the same query, with its conditions in order, or are refused for the
same fault. So parameters whose keys do not repeat may come in any order, and a key that comes again
or is dropped may stand anywhere. -/
theorem compile_canonical (s : Schema) :
    (∀ params params' : List (String × String),
      (∀ key, ¬ s.Drops key → params.lookup key = params'.lookup key) →
        compile s params = compile s params') ∧
    (∀ params q, compile s params = .ok q →
      q.conditions.Pairwise fun a b => (Condition.compare a b).isLE = true) ∧
    (∀ params params', (params.map (·.1)).Nodup → params.Perm params' →
      compile s params = compile s params') ∧
    (∀ before after key value, key ∈ before.map (·.1) →
      compile s (before ++ (key, value) :: after) = compile s (before ++ after)) ∧
    ∀ before after key value, s.Drops key →
      compile s (before ++ (key, value) :: after) = compile s (before ++ after) := by
  refine ⟨fun params params' => compile_congr, fun params q h => ?_,
    fun params params' hn perm => compile_congr fun key _ => ?_,
    fun before after key value again => compile_congr fun k _ => lookup_insert ?_,
    fun before after key value dropped => compile_congr fun k kept => lookup_insert ?_⟩
  · obtain ⟨o, -, rfl⟩ := compile_eq_ok.mp h
    exact Condition.pairwise_sort _
  · have hn' : (params'.map (·.1)).Nodup := (perm.map _).nodup_iff.mp hn
    refine Option.ext fun value => ?_
    rw [lookup_eq_some_iff_mem hn, lookup_eq_some_iff_mem hn', perm.mem_iff]
  · rintro rfl
    obtain ⟨p, hp, rfl⟩ := List.mem_map.mp again
    exact List.lookup_isSome_iff.mpr ⟨p, hp, beq_self_eq_true _⟩
  · rintro rfl
    exact absurd dropped kept

theorem compile_canonical_wanted :
    note.Drops "in-id-id" ∧ compile note (wanted.take 3 ++ wanted.drop 4) = compile note wanted ∧
    compile note [("q-order", "desc-id"), ("Id", "1")] =
      compile note [("Id", "1"), ("q-order", "desc-id")] := by
  obtain ⟨-, -, permuted, -, dropped⟩ := compile_canonical note
  have drops : note.Drops "in-id-id" := ⟨by decide, .parts (by decide)⟩
  refine ⟨drops, (dropped (wanted.take 3) (wanted.drop 4) "in-id-id" "4" drops).symm, ?_⟩
  exact permuted _ _ (by decide) (.swap _ _ _)

end Query

end Registrar
