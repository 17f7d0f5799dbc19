import Registrar.Proofs.Resolving
import Registrar.Proofs.Scanning

/-!
# What parameters can say

A parameter asks for a condition if its key is the name of a field, alone or behind an operator and
a dash, and for an order if its value is one. Both are said here as grammars, without the cutting
of texts and the lookups by which they are read: `Schema.Asks` for conditions, `Schema.AsksOrder`
for orders. What is read is what the grammars have, and each parameter that counts is read once.

* `Text.split_eq_iff`: a text has one way to be cut.
* `Schema.condition?_eq_some_iff`, `Schema.order_eq_ok_iff`: conditions and orders are read as the
  grammars have them.
* `Query.mem_asked_iff`: what parameters ask for, and by which keys.
* `Query.compile_eq`: a query is made of what is asked for, and only its order can be refused.
-/

namespace Registrar

/-! ## Cutting texts -/

namespace Text

variable {sep : Char} {cs : List Char}

theorem splitChars_of_notMem : ∀ {cs : List Char}, sep ∉ cs → splitChars sep cs = [cs]
  | [], _ => rfl
  | c :: cs, h => by
    obtain ⟨hc, hcs⟩ : sep ≠ c ∧ sep ∉ cs := by simpa using h
    unfold splitChars
    rw [if_neg (Ne.symm hc), splitChars_of_notMem hcs]

theorem splitChars_append : ∀ {as : List Char}, sep ∉ as → ∀ cs : List Char,
    splitChars sep (as ++ sep :: cs) = as :: splitChars sep cs
  | [], _, cs => by
    rw [List.nil_append, splitChars, if_pos rfl]
  | a :: as, h, cs => by
    obtain ⟨ha, has⟩ : sep ≠ a ∧ sep ∉ as := by simpa using h
    rw [List.cons_append, splitChars, if_neg (Ne.symm ha), splitChars_append has]

theorem notMem_of_mem_splitChars : ∀ {cs part : List Char}, part ∈ splitChars sep cs → sep ∉ part
  | [], part, h => by
    rw [List.mem_singleton.mp h]
    exact List.not_mem_nil
  | c :: cs, part, h => by
    unfold splitChars at h
    split at h
    · rcases List.mem_cons.mp h with rfl | h
      · exact List.not_mem_nil
      · exact notMem_of_mem_splitChars h
    · rename_i other
      split at h
      · rename_i first rest parts
        have clean : ∀ p ∈ first :: rest, sep ∉ p := fun p hp =>
          notMem_of_mem_splitChars (parts ▸ hp)
        obtain ⟨hfirst, hrest⟩ := List.forall_mem_cons.mp clean
        rcases List.mem_cons.mp h with rfl | h
        · simpa using ⟨Ne.symm other, hfirst⟩
        · exact hrest part h
      · rename_i none
        exact absurd none (splitChars_ne_nil sep cs)

/-- The parts are the one way to write a list as what has no separator, joined by separators. -/
theorem splitChars_eq_iff {parts : List (List Char)} : splitChars sep cs = parts ↔
    parts ≠ [] ∧ (∀ p ∈ parts, sep ∉ p) ∧ [sep].intercalate parts = cs := by
  constructor
  · rintro rfl
    exact ⟨splitChars_ne_nil sep cs, fun p => notMem_of_mem_splitChars,
      intercalate_splitChars sep cs⟩
  · rintro ⟨given, clean, rfl⟩
    induction parts with
    | nil => exact absurd rfl given
    | cons p rest ih =>
      obtain ⟨hp, hrest⟩ := List.forall_mem_cons.mp clean
      cases rest with
      | nil => simpa using splitChars_of_notMem hp
      | cons p' rest =>
        rw [List.intercalate_cons_cons, List.append_assoc, List.singleton_append,
          splitChars_append hp, ih (by simp) hrest]

/-- **A text has one way to be cut.** -/
theorem split_eq_iff {text : String} {parts : List String} : split sep text = parts ↔
    parts ≠ [] ∧ (∀ p ∈ parts, sep ∉ p.toList) ∧
      (String.singleton sep).intercalate parts = text := by
  have lists : split sep text = parts ↔ splitChars sep text.toList = parts.map String.toList := by
    unfold split
    constructor
    · rintro rfl
      simp
    · intro h
      simp [h]
  rw [lists, splitChars_eq_iff, ← String.toList_inj, String.toList_intercalate]
  simp

theorem split_eq_singleton_iff {text part : String} :
    split sep text = [part] ↔ part = text ∧ sep ∉ text.toList := by
  rw [split_eq_iff]
  constructor
  · rintro ⟨-, clean, rfl⟩
    exact ⟨by simp, by simpa using clean⟩
  · rintro ⟨rfl, clean⟩
    simpa using clean

theorem split_eq_pair_iff {text first second : String} : split sep text = [first, second] ↔
    sep ∉ first.toList ∧ sep ∉ second.toList ∧
      text = first ++ String.singleton sep ++ second := by
  rw [split_eq_iff]
  constructor
  · rintro ⟨-, clean, rfl⟩
    exact ⟨clean first (by simp), clean second (by simp), rfl⟩
  · rintro ⟨hfirst, hsecond, rfl⟩
    exact ⟨by simp, by simpa using ⟨hfirst, hsecond⟩, rfl⟩

end Text

/-! ## Fields and their keys -/

/-- Whether a text names a field: by its name or its document key, whatever the case of ASCII
letters. -/
def Field.AnswersTo (f : Field) (text : String) : Prop :=
  foldCase f.name = foldCase text ∨ ∃ key, f.jsonKey = some key ∧ foldCase key = foldCase text

namespace Schema

variable {s : Schema} {text : String} {i j : Fin s.fields.length}

/-- A text without dashes names a field that has a column, and no field before it. -/
structure Filterable (s : Schema) (text : String) (i : Fin s.fields.length) : Prop where
  dashFree : '-' ∉ text.toList
  answers : (s.fields.get i).AnswersTo text
  first : ∀ j < i, ¬ (s.fields.get j).AnswersTo text
  persisted : (s.fields.get i).isPersisted = true

/-- A text names one field at most. -/
theorem Filterable.unique (hi : s.Filterable text i) (hj : s.Filterable text j) : i = j := by
  rcases lt_trichotomy i j with before | same | behind
  · exact absurd hi.answers (hj.first i before)
  · exact same
  · exact absurd hj.answers (hi.first j behind)

theorem lookup?_eq_some_iff : s.lookup? text = some i ↔
    (s.fields.get i).AnswersTo text ∧ ∀ j < i, ¬ (s.fields.get j).AnswersTo text := by
  have answers : ∀ f : Field, (foldCase f.name = foldCase text ||
      f.jsonKey.any fun key => foldCase key = foldCase text) = true ↔ f.AnswersTo text := by
    intro f
    simp [Field.AnswersTo, Option.any_eq_true]
  unfold lookup?
  rw [List.findFinIdx?_eq_some_iff]
  refine and_congr (answers _) (forall_congr' fun j => forall_congr' fun _ => ?_)
  rw [← answers]
  rfl

/-- **A key is found filterable** where it has no dashes. -/
theorem filterable?_eq_some_iff (clean : '-' ∉ text.toList) {name : String} :
    s.filterable? text = some name ↔ ∃ i, s.Filterable text i ∧ (s.fields.get i).name = name := by
  unfold filterable?
  constructor
  · intro h
    split at h
    · rename_i i found
      split at h
      · rename_i persisted
        obtain ⟨answers, first⟩ := lookup?_eq_some_iff.mp found
        exact ⟨i, ⟨clean, answers, first, persisted⟩, Option.some.inj h⟩
      · exact absurd h (by simp)
    · exact absurd h (by simp)
  · rintro ⟨i, hi, rfl⟩
    rw [lookup?_eq_some_iff.mpr ⟨hi.answers, hi.first⟩]
    exact if_pos hi.persisted

theorem Filterable.found (hi : s.Filterable text i) :
    s.filterable? text = some (s.fields.get i).name :=
  (filterable?_eq_some_iff hi.dashFree).mpr ⟨i, hi, rfl⟩

end Schema

/-! ## Conditions -/

/-- The operators that stand in front of a field, and how they are written. -/
def Operator.words : List (String × Operator) :=
  [("lt", .lt), ("lte", .lte), ("gt", .gt), ("gte", .gte), ("in", .among)]

theorem Operator.ofPrefix?_eq_some_iff {word : String} {op : Operator} :
    ofPrefix? word = some op ↔ (word, op) ∈ words := by
  constructor
  · intro h
    unfold ofPrefix? at h
    split at h
    all_goals first
      | (obtain rfl := Option.some.inj h; decide)
      | exact absurd h (by simp)
  · intro h
    simp only [words, List.mem_cons, Prod.mk.injEq, List.not_mem_nil, or_false] at h
    rcases h with ⟨rfl, rfl⟩ | ⟨rfl, rfl⟩ | ⟨rfl, rfl⟩ | ⟨rfl, rfl⟩ | ⟨rfl, rfl⟩ <;> rfl

theorem Operator.dashFree_of_words {word : String} {op : Operator} (known : (word, op) ∈ words) :
    '-' ∉ word.toList := by
  have all : ∀ e ∈ words, '-' ∉ e.1.toList := by decide
  exact all _ known

/-- Only `in` asks for a choice. -/
theorem Operator.eq_in_of_words {word : String} (known : (word, .among) ∈ words) : word = "in" := by
  simpa [words] using known

/-- Whether a schema knows what a key asks for: a field alone, or one behind an operator and a
dash. -/
def Schema.Understands (s : Schema) (key : String) : Prop :=
  (∃ i, s.Filterable key i) ∨
    ∃ word op text i, (word, op) ∈ Operator.words ∧ s.Filterable text i ∧ key = word ++ "-" ++ text

/-- The condition that a key asks for with a value: equality by a field alone, a comparison or a
choice by what stands in front of the field. A choice is among the texts, at least one and without
commas, that the value lists with commas. -/
inductive Schema.Asks (s : Schema) (value : String) : String → Condition → Prop where
  | equal {text : String} {i : Fin s.fields.length} (field : s.Filterable text i) :
    Asks s value text ⟨(s.fields.get i).name, .eq, .single value⟩
  | compared {word text : String} {op : Operator} {i : Fin s.fields.length}
    (known : (word, op) ∈ Operator.words) (single : op ≠ .among) (field : s.Filterable text i) :
    Asks s value (word ++ "-" ++ text) ⟨(s.fields.get i).name, op, .single value⟩
  | listed {text : String} {values : List String} {i : Fin s.fields.length}
    (field : s.Filterable text i) (given : values ≠ []) (clean : ∀ v ∈ values, ',' ∉ v.toList)
    (joined : ",".intercalate values = value) :
    Asks s value ("in-" ++ text) ⟨(s.fields.get i).name, .among, .many values⟩

/-- How a direction is written. -/
def Direction.word : Direction → String
  | .ascending => "asc"
  | .descending => "desc"

/-- The order that a value asks for. -/
def Schema.AsksOrder (s : Schema) (value : String) (o : Order) : Prop :=
  ∃ text i, s.Filterable text i ∧ o.field = (s.fields.get i).name ∧
    value = o.direction.word ++ "-" ++ text

namespace Schema

variable {s : Schema} {key value : String} {c : Condition} {o : Order}

theorem condition?_of_field {text : String} {i : Fin s.fields.length} (hi : s.Filterable text i)
    (value : String) :
    s.condition? text value = some ⟨(s.fields.get i).name, .eq, .single value⟩ := by
  unfold condition?
  rw [Text.split_eq_singleton_iff.mpr ⟨rfl, hi.dashFree⟩]
  simp only [hi.found, Option.map_some]

theorem condition?_of_word {word text : String} {op : Operator} {i : Fin s.fields.length}
    (known : (word, op) ∈ Operator.words) (hi : s.Filterable text i) (value : String) :
    s.condition? (word ++ "-" ++ text) value = some ⟨(s.fields.get i).name, op,
      if op = .among then .many (Text.split ',' value) else .single value⟩ := by
  have parts : Text.split '-' (word ++ "-" ++ text) = [word, text] :=
    Text.split_eq_pair_iff.mpr ⟨Operator.dashFree_of_words known, hi.dashFree, rfl⟩
  unfold condition?
  rw [parts]
  simp only [Operator.ofPrefix?_eq_some_iff.mpr known, hi.found]
  rfl

/-- What is asked behind a word: a choice is among the parts of the value. -/
theorem asks_of_word {word text : String} {op : Operator} {i : Fin s.fields.length}
    (known : (word, op) ∈ Operator.words) (hi : s.Filterable text i) (value : String) :
    s.Asks value (word ++ "-" ++ text) ⟨(s.fields.get i).name, op,
      if op = .among then .many (Text.split ',' value) else .single value⟩ := by
  by_cases choice : op = .among
  · subst choice
    obtain rfl := Operator.eq_in_of_words known
    obtain ⟨given, commaFree, joined⟩ := Text.split_eq_iff.mp (rfl : Text.split ',' value = _)
    exact .listed hi given commaFree joined
  · rw [if_neg choice]
    exact .compared known choice hi

/-- **Conditions are read as the grammar has them.** -/
theorem condition?_eq_some_iff : s.condition? key value = some c ↔ s.Asks value key c := by
  constructor
  · intro h
    unfold condition? at h
    split at h
    · rename_i text parts
      obtain ⟨rfl, clean⟩ := Text.split_eq_singleton_iff.mp parts
      obtain ⟨name, found, rfl⟩ := Option.map_eq_some_iff.mp h
      obtain ⟨i, hi, rfl⟩ := (filterable?_eq_some_iff clean).mp found
      exact .equal hi
    · rename_i word text parts
      obtain ⟨-, clean, rfl⟩ := Text.split_eq_pair_iff.mp parts
      obtain ⟨op, known, h⟩ := Option.bind_eq_some_iff.mp h
      obtain ⟨name, found, h⟩ := Option.bind_eq_some_iff.mp h
      obtain rfl := Option.some.inj h
      obtain ⟨i, hi, rfl⟩ := (filterable?_eq_some_iff clean).mp found
      exact asks_of_word (Operator.ofPrefix?_eq_some_iff.mp known) hi value
    · exact absurd h (by simp)
  · intro h
    cases h with
    | equal hi => exact condition?_of_field hi value
    | compared known single hi => rw [condition?_of_word known hi, if_neg single]
    | @listed text values i hi given commaFree joined =>
      have known : ("in", Operator.among) ∈ Operator.words := by decide
      have cut : Text.split ',' value = values := Text.split_eq_iff.mpr ⟨given, commaFree, joined⟩
      have read := condition?_of_word known hi value
      rw [if_pos rfl, cut] at read
      exact read

/-- A key that is understood asks for a condition whatever its value. -/
theorem exists_asks_iff : (∃ c, s.Asks value key c) ↔ s.Understands key := by
  constructor
  · rintro ⟨c, asks⟩
    cases asks with
    | equal hi => exact .inl ⟨_, hi⟩
    | compared known _ hi => exact .inr ⟨_, _, _, _, known, hi, rfl⟩
    | listed hi => exact .inr ⟨"in", .among, _, _, by decide, hi, rfl⟩
  · rintro (⟨i, hi⟩ | ⟨word, op, text, i, known, hi, rfl⟩)
    · exact ⟨_, .equal hi⟩
    · exact ⟨_, asks_of_word known hi value⟩

theorem isSome_index?_name (s : Schema) (i : Fin s.fields.length) :
    (s.index? (s.fields.get i).name).isSome = true := by
  unfold index?
  rw [List.isSome_findFinIdx?, List.any_eq_true]
  exact ⟨s.fields.get i, List.get_mem _ _, by simp⟩

theorem Asks.isSome_index? (h : s.Asks value key c) : (s.index? c.field).isSome = true := by
  cases h with
  | equal => exact isSome_index?_name s _
  | compared => exact isSome_index?_name s _
  | listed => exact isSome_index?_name s _

theorem AsksOrder.isSome_index? (h : s.AsksOrder value o) : (s.index? o.field).isSome = true := by
  obtain ⟨text, i, -, named, -⟩ := h
  rw [named]
  exact isSome_index?_name s i

theorem Asks.among_iff (h : s.Asks value key c) :
    c.operator = .among ↔ ∃ values, c.operand = .many values := by
  cases h with
  | equal => simp
  | compared _ single => simp [single]
  | listed => simp

theorem Asks.operand_literals (h : s.Asks value key c) :
    c.operand.literals ≠ [] ∧ ",".intercalate c.operand.literals = value := by
  cases h with
  | equal => exact ⟨by simp [Operand.literals], rfl⟩
  | compared => exact ⟨by simp [Operand.literals], rfl⟩
  | listed _ given _ joined => exact ⟨given, joined⟩

/-- **Orders are read as the grammar has them.** -/
theorem order_eq_ok_iff : s.order value = .ok o ↔ s.AsksOrder value o := by
  unfold order
  constructor
  · intro h
    split at h
    · rename_i word text parts
      obtain ⟨-, clean, rfl⟩ := Text.split_eq_pair_iff.mp parts
      split at h
      · exact absurd h (by simp)
      · rename_i name found
        obtain ⟨i, hi, rfl⟩ := (filterable?_eq_some_iff clean).mp found
        split at h
        · obtain rfl := Except.ok.inj h
          exact ⟨text, i, hi, rfl, rfl⟩
        · obtain rfl := Except.ok.inj h
          exact ⟨text, i, hi, rfl, rfl⟩
        · exact absurd h (by simp)
    · exact absurd h (by simp)
  · rintro ⟨text, i, hi, named, rfl⟩
    obtain ⟨name, direction⟩ := o
    obtain rfl : name = _ := named
    have clean : '-' ∉ direction.word.toList := by cases direction <;> decide
    have parts : Text.split '-' (direction.word ++ "-" ++ text) = [direction.word, text] :=
      Text.split_eq_pair_iff.mpr ⟨clean, hi.dashFree, rfl⟩
    simp only [parts, hi.found]
    cases direction <;> rfl

end Schema

/-! ## Parameters that count -/

namespace Query

variable {s : Schema} {params : List (String × String)} {q : Query}

/-- The conditions that parameters ask for, with the keys that ask for them. -/
def asked (s : Schema) (params : List (String × String)) : List (String × Condition) :=
  (firsts [] params).filterMap fun p => (s.condition? p.1 p.2).map fun c => (p.1, c)

theorem mem_asked_iff {key : String} {c : Condition} : (key, c) ∈ asked s params ↔
    ∃ value, params.lookup key = some value ∧ s.Asks value key c := by
  unfold asked
  rw [List.mem_filterMap]
  constructor
  · rintro ⟨⟨k, value⟩, counts, h⟩
    obtain ⟨c', hc', same⟩ := Option.map_eq_some_iff.mp h
    obtain ⟨rfl, rfl⟩ := Prod.mk.inj same
    exact ⟨value, (mem_firsts_iff.mp counts).2, Schema.condition?_eq_some_iff.mp hc'⟩
  · rintro ⟨value, given, asks⟩
    refine ⟨(key, value), mem_firsts_iff.mpr ⟨List.not_mem_nil, given⟩, ?_⟩
    rw [Schema.condition?_eq_some_iff.mpr asks]
    rfl

theorem nodup_asked (s : Schema) (params : List (String × String)) :
    ((asked s params).map (·.1)).Nodup := by
  refine (nodup_firsts params []).sublist ?_
  unfold asked
  induction firsts [] params with
  | nil => exact .slnil
  | cons p rest ih =>
    rw [List.filterMap_cons]
    cases s.condition? p.1 p.2 with
    | none => exact ih.cons _
    | some c => exact ih.cons_cons _

/-- The order that parameters ask for. -/
def orderAsked (s : Schema) (params : List (String × String)) : Except Fault (Option Order) :=
  match params.lookup "q-order" with
  | some value => (s.order value).map some
  | none => .ok none

/-- The query that parameters ask for, but for its order. -/
def unordered (s : Schema) (params : List (String × String)) : Query where
  conditions := Condition.sort ((firsts [] params).filterMap fun p => s.condition? p.1 p.2)
  order := none
  limit := ((params.lookup "q-limit").map (count defaultLimit)).getD defaultLimit
  offset := ((params.lookup "q-offset").map (count 0)).getD 0
  fields := (params.lookup "q-fields").map keyList

/-- Only the order can fail. -/
theorem compile_eq (s : Schema) (params : List (String × String)) :
    compile s params =
      (orderAsked s params).map fun o => { unordered s params with order := o } := by
  have order : orderAsked s params = reordered s blank (params.lookup "q-order") := by
    unfold orderAsked
    cases params.lookup "q-order" <;> rfl
  unfold compile
  rw [scan_eq, entered, order]
  simp only [first?_nil, blank, Option.or_none, List.nil_append]
  cases reordered s _ (params.lookup "q-order") <;> rfl

theorem compile_eq_ok :
    compile s params = .ok q ↔
      ∃ o, orderAsked s params = .ok o ∧ { unordered s params with order := o } = q := by
  rw [compile_eq, map_eq_ok]

theorem unordered_conditions (s : Schema) (params : List (String × String)) :
    (unordered s params).conditions = Condition.sort ((asked s params).map (·.2)) := by
  unfold unordered asked
  rw [List.map_filterMap]
  refine congrArg (fun f => Condition.sort ((firsts [] params).filterMap f)) (funext fun p => ?_)
  cases s.condition? p.1 p.2 <;> rfl

theorem orderAsked_eq_ok_iff {o : Order} : orderAsked s params = .ok (some o) ↔
    ∃ value, params.lookup "q-order" = some value ∧ s.AsksOrder value o := by
  unfold orderAsked
  cases params.lookup "q-order" with
  | none => simp
  | some value => simp [map_eq_ok, Schema.order_eq_ok_iff]

/-- An order is refused just if it is none. -/
theorem exists_orderAsked_eq_error_iff : (∃ fault, orderAsked s params = .error fault) ↔
    ∃ value, params.lookup "q-order" = some value ∧ ¬ ∃ o, s.AsksOrder value o := by
  unfold orderAsked
  cases params.lookup "q-order" with
  | none => simp
  | some value =>
    simp only [Option.some.injEq, exists_eq_left', ← Schema.order_eq_ok_iff]
    cases s.order value with
    | error fault => simp [Except.map]
    | ok o => simp [Except.map]

/-- A number as it is counted can be bound. -/
theorem count_le {default : Nat} (h : default ≤ Decimal.maxInt64) (value : String) :
    count default value ≤ Decimal.maxInt64 := by
  unfold count
  split
  · rename_i n _
    have below : n.toInt ≤ 9223372036854775807 := n.toInt_le
    split
    · exact h
    · simp only [Decimal.maxInt64]
      omega
  · exact h

theorem getD_count_le {default : Nat} (given : Option String) (h : default ≤ Decimal.maxInt64) :
    ((given.map (count default)).getD default) ≤ Decimal.maxInt64 := by
  cases given with
  | none => exact h
  | some value =>
    rw [Option.map_some, Option.getD_some]
    exact count_le h value

/-! ### Compiled queries -/

/-- A compiled condition is asked for by some parameter. -/
theorem asks_of_compile (h : compile s params = .ok q) :
    ∀ c ∈ q.conditions, ∃ key value, s.Asks value key c := by
  obtain ⟨o, -, rfl⟩ := compile_eq_ok.mp h
  intro c hc
  have listed : c ∈ (unordered s params).conditions := hc
  rw [unordered_conditions] at listed
  obtain ⟨⟨key, c⟩, hasked, rfl⟩ :=
    List.mem_map.mp ((Sorting.perm_sort _ _).mem_iff.mp listed)
  obtain ⟨value, -, asks⟩ := mem_asked_iff.mp hasked
  exact ⟨key, value, asks⟩

/-- **Compiled queries name fields** of the schema. -/
theorem index?_of_compile (h : compile s params = .ok q) :
    (∀ c ∈ q.conditions, (s.index? c.field).isSome = true) ∧
      ∀ o, q.order = some o → (s.index? o.field).isSome = true := by
  refine ⟨fun c hc => ?_, fun o ho => ?_⟩
  · obtain ⟨key, value, asks⟩ := asks_of_compile h c hc
    exact asks.isSome_index?
  · obtain ⟨asked, hasked, rfl⟩ := compile_eq_ok.mp h
    obtain rfl : asked = some o := ho
    obtain ⟨value, -, asks⟩ := orderAsked_eq_ok_iff.mp hasked
    exact asks.isSome_index?

end Query

end Registrar
