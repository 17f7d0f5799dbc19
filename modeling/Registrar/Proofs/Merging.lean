import Registrar.Proofs.Changes

/-!
# The laws of merging

A rule lists names, and which fields it copies is found in two ways: names to copy are looked up
among the fields, and what is found is sorted and freed of repeats; names to leave are a set that
the name of every field is looked up in (`MergeRule.located`). A merge in place then overwrites the
target's values one after the other (`MergeRule.mergeInto`).

* `MergeRule.located_eq_resolve`: both ways find the fields that a rule copies, since names do not
  repeat among fields.
* `MergeRule.mergeInto_apply`: a merge in place is a merge, and leaves the target as it was if it
  fails.
* `MergeRule.splits_resolve`: the fields to copy and the fields to leave are complementary.
* `MergeRule.merges_apply`: what a merge takes from the source and what it leaves.
* `MergeRule.merge_laws`: all of it, for the rules of one list of names.
-/

namespace Registrar

namespace Schema

variable {a b s : Schema} {name : String}

/-- Two schemas of one name, whose fields have the same names and kinds in the same order. -/
structure Matches (a b : Schema) : Prop where
  name : a.name = b.name
  names : a.fields.map (·.name) = b.fields.map (·.name)
  kinds : a.fields.map (·.kind) = b.fields.map (·.kind)

theorem map_pair_eq_iff : ∀ {fs gs : List Field},
    fs.map (fun f => (f.name, f.kind)) = gs.map (fun f => (f.name, f.kind)) ↔
      fs.map (·.name) = gs.map (·.name) ∧ fs.map (·.kind) = gs.map (·.kind)
  | [], [] => by simp
  | [], _ :: _ => by simp
  | _ :: _, [] => by simp
  | f :: fs, g :: gs => by
    simp only [List.map_cons, List.cons.injEq, Prod.mk.injEq, @map_pair_eq_iff fs gs]
    exact and_and_and_comm

theorem sameLayout_iff : a.sameLayout b = true ↔ a.Matches b := by
  unfold sameLayout
  rw [Bool.and_eq_true, beq_iff_eq, beq_iff_eq, map_pair_eq_iff]
  exact ⟨fun ⟨name, names, kinds⟩ => ⟨name, names, kinds⟩,
    fun ⟨name, names, kinds⟩ => ⟨name, names, kinds⟩⟩

/-- Schemas that match have equally many fields. -/
theorem Matches.length_eq (h : a.Matches b) : a.fields.length = b.fields.length := by
  simpa using congrArg List.length h.names

end Schema

/-! ## Merges in place -/

namespace Record

/-- Overwrite the value with an index in a target by the one in a source. -/
def copyAt (source target : Record) (i : Nat) : Record where
  schema := target.schema
  values :=
    match source.values[i]? with
    | some v => target.values.set i v
    | none => target.values
  length_values := by
    split
    · rw [List.length_set, target.length_values]
    · exact target.length_values

variable {source target : Record}

theorem schema_foldl_copyAt : ∀ (is : List Nat) (target : Record),
    (is.foldl source.copyAt target).schema = target.schema
  | [], _ => rfl
  | i :: is, target => schema_foldl_copyAt is (source.copyAt target i)

theorem getElem?_copyAt (same : source.values.length = target.values.length) (i j : Nat) :
    (source.copyAt target i).values[j]?
      = if j = i then source.values[j]? else target.values[j]? := by
  show (match source.values[i]? with
    | some v => target.values.set i v
    | none => target.values)[j]? = _
  cases hv : source.values[i]? with
  | some v =>
    obtain ⟨within, -⟩ := List.getElem?_eq_some_iff.mp hv
    dsimp only
    rw [List.getElem?_set]
    by_cases here : i = j
    · subst here
      rw [if_pos rfl, if_pos (same ▸ within), if_pos rfl, hv]
    · rw [if_neg here, if_neg (Ne.symm here)]
  | none =>
    dsimp only
    by_cases here : j = i
    · have outside : target.values.length ≤ i := same ▸ List.getElem?_eq_none_iff.mp hv
      rw [if_pos here, here, hv]
      exact List.getElem?_eq_none outside
    · rw [if_neg here]

/-- Values that are copied one after the other are the source's in the end, and the others stay. -/
theorem getElem?_foldl_copyAt (j : Nat) : ∀ {is : List Nat} {target : Record},
    source.values.length = target.values.length →
      (is.foldl source.copyAt target).values[j]? =
        if j ∈ is then source.values[j]? else target.values[j]?
  | [], _, _ => by simp
  | i :: is, target, same => by
    have copied := getElem?_copyAt same i j
    have still : source.values.length = (source.copyAt target i).values.length := by
      rw [same, target.length_values, (source.copyAt target i).length_values]
      rfl
    rw [List.foldl_cons, getElem?_foldl_copyAt j still, copied]
    by_cases here : j = i
    · simp [here]
    · simp [here]

end Record

namespace MergeRule

/-- The indexes of the fields that are copied, as they are found. Names to copy are looked up, and
what is found is sorted and freed of repeats; names to leave are a set that the name of every field
is looked up in. -/
def located (s : Schema) : MergeRule → List (Fin s.fields.length)
  | .only names => ((names.filterMap s.index?).mergeSort (· ≤ ·)).dedup
  | .allBut names => (List.finRange s.fields.length).filter fun i =>
    !names.contains (s.fields.get i).name

/-- Merge a source into a target in place: the values of the fields that are copied are overwritten
one after the other. -/
def mergeInto (rule : MergeRule) (source : Record) : ExceptT MergeFault (StateM Record) Unit := do
  let target ← get
  if source.schema.sameLayout target.schema then
    ((rule.located source.schema).map Fin.val).forM fun i => modify (source.copyAt · i)
  else throw ⟨source.schema.name, target.schema.name⟩

/-- Two lists of fields by index, both ascending, that have every field once between them. -/
structure Splits {s : Schema} (a b : List (Fin s.fields.length)) : Prop where
  ascending : a.Pairwise (· < ·)
  ascending' : b.Pairwise (· < ·)
  once : (a ++ b).Perm (List.finRange s.fields.length)

variable {rule : MergeRule} {names names' : List String} {s : Schema}
  {source target m m' : Record}

/-! ## Resolving -/

theorem mem_resolve {i : Fin s.fields.length} :
    i ∈ rule.resolve s ↔ rule.copies (s.fields.get i) = true := by
  simp [resolve]

theorem ascending_resolve (rule : MergeRule) (s : Schema) :
    (rule.resolve s).Pairwise (· < ·) :=
  (List.pairwise_lt_finRange _).filter _

/-- A field is copied by name iff one of the names stands for it. -/
theorem mem_resolve_only (hs : s.Sound) {i : Fin s.fields.length} :
    i ∈ (only names).resolve s ↔ ∃ name ∈ names, s.index? name = some i := by
  rw [mem_resolve]
  show names.contains (s.fields.get i).name = true ↔ _
  rw [List.contains_iff_mem]
  constructor
  · exact fun listed => ⟨_, listed, (Schema.index?_eq_some_iff hs).mpr rfl⟩
  · rintro ⟨name, listed, found⟩
    rw [(Schema.index?_eq_some_iff hs).mp found]
    exact listed

/-- **Both ways find the fields that a rule copies.** -/
theorem located_eq_resolve (hs : s.Sound) (rule : MergeRule) : rule.located s = rule.resolve s := by
  cases rule with
  | allBut names => rfl
  | only names =>
    -- two ascending lists without repeats are equal if they have the same members
    have sorted : ((only names).located s).Pairwise (· < ·) := by
      have weak : ((only names).located s).Pairwise (· ≤ ·) :=
        (List.pairwise_mergeSort' (· ≤ ·) (names.filterMap s.index?)).sublist (List.dedup_sublist _)
      exact (weak.and (List.nodup_dedup _)).imp fun ⟨le, ne⟩ => lt_of_le_of_ne le ne
    refine sorted.eq_of_mem_iff (ascending_resolve _ s) fun i => ?_
    rw [mem_resolve_only hs]
    show i ∈ (List.mergeSort _ _).dedup ↔ _
    rw [List.mem_dedup, List.mem_mergeSort, List.mem_filterMap]

/-- **What is copied and what is left are complementary.** -/
theorem splits_resolve (names : List String) (s : Schema) :
    Splits ((only names).resolve s) ((allBut names).resolve s) :=
  ⟨ascending_resolve _ s, ascending_resolve _ s, List.filter_append_perm _ _⟩

theorem mem_resolve_allBut {i : Fin s.fields.length} :
    i ∈ (allBut names).resolve s ↔ i ∉ (only names).resolve s := by
  rw [mem_resolve, mem_resolve]
  show (!names.contains _) = true ↔ ¬ names.contains _ = true
  rw [Bool.not_eq_true', Bool.not_eq_true]

/-- Repeats and the order of names do not matter. -/
theorem resolve_congr (same : ∀ name, name ∈ names' ↔ name ∈ names) (s : Schema) :
    (only names').resolve s = (only names).resolve s ∧
      (allBut names').resolve s = (allBut names).resolve s := by
  have listed : ∀ name, names'.contains name = names.contains name := fun name => by
    rw [Bool.eq_iff_iff, List.contains_iff_mem, List.contains_iff_mem]
    exact same name
  refine ⟨List.filter_congr fun i _ => listed _, List.filter_congr fun i _ => ?_⟩
  exact congrArg (!·) (listed _)

/-- What is declared to change is not declared to stay. -/
theorem mem_resolve_untagged (hs : s.Sound) {i : Fin s.fields.length}
    (h : i ∈ (tagged s).resolve s) : i ∈ (untagged s).resolve s := by
  obtain ⟨f, hf, merge⟩ := isMergeable_of_copies hs (s.getElem?_fields i) (mem_resolve.mp h)
  obtain rfl := Option.some.inj ((s.getElem?_fields i).symm.trans hf)
  refine mem_resolve_allBut.mpr fun listed => ?_
  obtain ⟨g, hg, name⟩ := List.mem_map.mp (List.contains_iff_mem.mp (mem_resolve.mp listed))
  obtain ⟨hg, stays⟩ := List.mem_filter.mp hg
  obtain rfl := List.inj_on_of_nodup_map hs.fields hg (List.get_mem _ i) name
  rw [merge] at stays
  exact absurd stays (by simp)

/-! ## Merging -/

/-- A record that holds the values of a source for the fields that a rule copies, and those of a
target for the others. -/
structure Merges (rule : MergeRule) (source target m : Record) : Prop where
  schema : m.schema = target.schema
  copied : ∀ i ∈ rule.resolve source.schema, m.values[i.val]? = source.values[i.val]?
  left : ∀ i, i ∉ rule.resolve source.schema → m.values[i.val]? = target.values[i.val]?

theorem length_values_of_matches (h : source.schema.Matches target.schema) :
    target.values.length = source.schema.fields.length := by
  rw [target.length_values, h.length_eq]

/-- There is one such record. -/
theorem Merges.unique (h : source.schema.Matches target.schema) (hm : rule.Merges source target m)
    (hm' : rule.Merges source target m') : m = m' := by
  refine Record.ext_of_values (hm.schema.trans hm'.schema.symm) fun j => ?_
  by_cases within : j < source.schema.fields.length
  · by_cases copied : (⟨j, within⟩ : Fin _) ∈ rule.resolve source.schema
    · exact (hm.copied _ copied).trans (hm'.copied _ copied).symm
    · exact (hm.left _ copied).trans (hm'.left _ copied).symm
  · have outside : ∀ q : Record, q.schema = target.schema → q.values[j]? = none := by
      intro q hq
      refine List.getElem?_eq_none ?_
      rw [q.length_values, hq, ← h.length_eq]
      exact Nat.le_of_not_lt within
    rw [outside m hm.schema, outside m' hm'.schema]

/-- **A merge takes the fields that its rule copies** from the source, and leaves the others. -/
theorem merges_apply (rule : MergeRule) (h : source.schema.Matches target.schema) :
    ∃ m, rule.apply source target = .ok m ∧ rule.Merges source target m := by
  have length := length_values_of_matches h
  unfold apply
  rw [if_pos (Schema.sameLayout_iff.mpr h)]
  refine ⟨_, rfl, rfl, fun i hi => ?_, fun i hi => ?_⟩
  · exact getElem?_pick_of_copies source.length_values length (source.schema.getElem?_fields i)
      (mem_resolve.mp hi)
  · refine getElem?_pick _ _ _ _ fun f hf => ?_
    obtain rfl := Option.some.inj ((source.schema.getElem?_fields i).symm.trans hf)
    exact eq_false_of_ne_true (mt mem_resolve.mpr hi)

theorem apply_of_not_matches (rule : MergeRule) (h : ¬ source.schema.Matches target.schema) :
    rule.apply source target = .error ⟨source.schema.name, target.schema.name⟩ := by
  unfold apply
  rw [if_neg (mt Schema.sameLayout_iff.mp h)]

/-- A merge depends on its rule by the fields that are copied only. -/
theorem apply_congr {rule rule' : MergeRule}
    (same : rule'.resolve source.schema = rule.resolve source.schema) :
    rule'.apply source target = rule.apply source target := by
  by_cases h : source.schema.Matches target.schema
  · obtain ⟨m, ok, hm⟩ := rule.merges_apply h
    obtain ⟨m', ok', schema, copied, left⟩ := rule'.merges_apply h
    rw [same] at copied left
    rw [ok, ok', hm.unique h ⟨schema, copied, left⟩]
  · rw [apply_of_not_matches rule h, apply_of_not_matches rule' h]

/-- A merge that was made changes nothing when it is made again. -/
theorem apply_again (h : source.schema.Matches target.schema)
    (ok : rule.apply source target = .ok m) : rule.apply source m = .ok m := by
  obtain ⟨m₁, ok₁, first⟩ := rule.merges_apply h
  obtain rfl := Except.ok.inj (ok.symm.trans ok₁)
  have still : source.schema.Matches m.schema := first.schema ▸ h
  obtain ⟨m₂, ok₂, second⟩ := rule.merges_apply still
  rw [ok₂, second.unique still ⟨rfl, first.copied, fun _ _ => rfl⟩]

/-- A merge of some fields and then of the others takes all values of the source. -/
theorem values_of_both (h : source.schema.Matches target.schema)
    (first : (only names).Merges source target m) (second : (allBut names).Merges source m m') :
    m'.values = source.values := by
  refine List.ext_getElem? fun j => ?_
  by_cases within : j < source.schema.fields.length
  · by_cases copied : (⟨j, within⟩ : Fin _) ∈ (allBut names).resolve source.schema
    · exact second.copied _ copied
    · have before : (⟨j, within⟩ : Fin _) ∈ (only names).resolve source.schema := by
        by_contra other
        exact copied (mem_resolve_allBut.mpr other)
      exact (second.left _ copied).trans (first.copied _ before)
  · have outside := Nat.le_of_not_lt within
    have length : m'.values.length = source.schema.fields.length := by
      rw [m'.length_values, second.schema, first.schema, h.length_eq]
    rw [List.getElem?_eq_none (length ▸ outside),
      List.getElem?_eq_none (source.length_values ▸ outside)]

/-! ### In place -/

theorem forM_copyAt : ∀ (is : List Nat) (target : Record),
    (is.forM fun i => modify (source.copyAt · i) : ExceptT MergeFault (StateM Record) Unit) target =
      (.ok (), is.foldl source.copyAt target)
  | [], _ => rfl
  | i :: is, target => forM_copyAt is (source.copyAt target i)

/-- **A merge in place is a merge**, and leaves the target as it was if it fails. -/
theorem mergeInto_apply (hs : source.schema.Sound) (rule : MergeRule) (target : Record) :
    rule.mergeInto source target =
      match rule.apply source target with
      | .ok m => (.ok (), m)
      | .error fault => (.error fault, target) := by
  have step : rule.mergeInto source target =
      (if source.schema.sameLayout target.schema then
        ((rule.located source.schema).map Fin.val).forM fun i => modify (source.copyAt · i)
      else throw ⟨source.schema.name, target.schema.name⟩ :
        ExceptT MergeFault (StateM Record) Unit) target := rfl
  rw [step]
  by_cases h : source.schema.Matches target.schema
  · obtain ⟨m, ok, hm⟩ := rule.merges_apply h
    have same : source.values.length = target.values.length := by
      rw [source.length_values, length_values_of_matches h]
    have copied : rule.Merges source target
        (((rule.located source.schema).map Fin.val).foldl source.copyAt target) := by
      refine ⟨Record.schema_foldl_copyAt _ _, fun i hi => ?_, fun i hi => ?_⟩
      all_goals rw [Record.getElem?_foldl_copyAt _ same, located_eq_resolve hs]
      · exact if_pos (List.mem_map_of_mem hi)
      · exact if_neg fun listed => hi ((List.mem_map_of_injective Fin.val_injective).mp listed)
    rw [if_pos (Schema.sameLayout_iff.mpr h), forM_copyAt, ok, hm.unique h copied]
  · rw [if_neg (mt Schema.sameLayout_iff.mp h), apply_of_not_matches rule h]
    rfl

/-! ## The laws -/

/-- **The laws of merging**, for the rules that copy the fields with listed names and that leave
them. The two resolve to complementary lists of fields, the first to those that the names stand for,
and which names are listed is all that matters; what is declared to change is not declared to stay.
Between records of matching schemas every rule can be applied: it takes the fields it resolves to
and leaves the others, a second time it changes nothing, and after the one rule the other completes
the source. Between records of other schemas no rule can be applied. In place it is the same, and
the target stays as it was if nothing is merged. -/
theorem merge_laws (resolved : s.Resolved) (names : List String) :
    Splits ((only names).resolve s) ((allBut names).resolve s) ∧
    (∀ i, i ∈ (only names).resolve s ↔ ∃ name ∈ names, s.index? name = some i) ∧
    (∀ i, i ∈ (tagged s).resolve s → i ∈ (untagged s).resolve s) ∧
    (∀ rule : MergeRule, rule.located s = rule.resolve s) ∧
    (∀ names' : List String, (∀ name, name ∈ names' ↔ name ∈ names) →
      (only names').resolve s = (only names).resolve s ∧
      (allBut names').resolve s = (allBut names).resolve s ∧
      ∀ source target : Record, source.schema = s →
        (only names').apply source target = (only names).apply source target ∧
        (allBut names').apply source target = (allBut names).apply source target) ∧
    ∀ source target : Record, source.schema = s →
      (∀ rule : MergeRule, rule.mergeInto source target =
        match rule.apply source target with
        | .ok m => (.ok (), m)
        | .error fault => (.error fault, target)) ∧
      (s.Matches target.schema →
        (∀ rule : MergeRule, ∃ m, rule.apply source target = .ok m ∧ rule.Merges source target m ∧
          rule.apply source m = .ok m) ∧
        ∃ m m', (only names).apply source target = .ok m ∧ (allBut names).apply source m = .ok m' ∧
          m'.values = source.values) ∧
      (¬ s.Matches target.schema → ∀ rule : MergeRule,
        rule.apply source target = .error ⟨s.name, target.schema.name⟩) := by
  have sound := resolved.sound
  refine ⟨splits_resolve names s, fun i => mem_resolve_only sound,
    fun i => mem_resolve_untagged sound, located_eq_resolve sound, fun names' same => ?_, ?_⟩
  · obtain ⟨listed, others⟩ := resolve_congr same s
    refine ⟨listed, others, ?_⟩
    rintro source target rfl
    exact ⟨apply_congr listed, apply_congr others⟩
  · rintro source target rfl
    refine ⟨fun rule => mergeInto_apply sound rule target, fun h => ⟨fun rule => ?_, ?_⟩,
      fun h rule => apply_of_not_matches rule h⟩
    · obtain ⟨m, ok, merges⟩ := rule.merges_apply h
      exact ⟨m, ok, merges, apply_again h ok⟩
    · obtain ⟨m, ok, first⟩ := (only names).merges_apply h
      obtain ⟨m', ok', second⟩ := (allBut names).merges_apply (first.schema ▸ h)
      exact ⟨m, m', ok, ok', values_of_both h first second⟩

/-- The title of a note is listed twice, beside its owner and a name that no field has. -/
theorem merge_laws_titleAndOwner :
    note.Resolved ∧
    (only ["title", "rank", "owner", "title"]).resolve note = [⟨1, by decide⟩, ⟨2, by decide⟩] ∧
    Splits ((only ["title", "rank", "owner", "title"]).resolve note)
      ((allBut ["title", "rank", "owner", "title"]).resolve note) ∧
    ∃ m m', (only ["title", "rank", "owner", "title"]).apply renamedNote firstNote = .ok m ∧
      (allBut ["title", "rank", "owner", "title"]).apply renamedNote m = .ok m' ∧
      m'.values = renamedNote.values := by
  obtain ⟨splits, -, -, -, -, merges⟩ :=
    merge_laws resolved_note ["title", "rank", "owner", "title"]
  refine ⟨resolved_note, by decide, splits, ?_⟩
  obtain ⟨-, matching, -⟩ := merges renamedNote firstNote rfl
  exact (matching ⟨rfl, rfl, rfl⟩).2

end MergeRule

end Registrar
