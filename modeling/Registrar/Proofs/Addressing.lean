import Registrar.Proofs.Grammar

/-!
# Which field a name leads to

A field with a column may be asked for by its name: alone, behind an operator, and in an order. The
name is looked up among the names and the document keys of all fields, whatever the case of letters,
and the first field that answers to it gets what is asked. That need not be the field whose name it
is: an earlier field may answer to it by its document key, or by a name that differs in case, and
what the check of a descriptor asks of names (`Descriptor.Resource.Valid`) does not rule this out.

* `Query.compile_single`, `Query.compile_order`: the queries of one parameter.
* `Query.leadsTo_of_persisted`, `Query.ignored_of_unpersisted`: what becomes of a text is settled by
  the first field that answers to it.
* **`Query.leadsTo_name_iff`**: the name of a field leads to the field iff no earlier field answers
  to it; otherwise it leads to such a field, or nowhere if that has no column.
* `Query.name_may_be_taken`: a resolved schema with a name of either sort.
-/

namespace Registrar

/-! ## Asking with a text -/

/-- The operand that an operator makes of a value: a choice is among the parts between commas. -/
def Operator.operand (op : Operator) (value : String) : Operand :=
  if op = .among then .many (Text.split ',' value) else .single value

/-- The keys that ask for a condition on what a text names, with the operators they ask for: the
text alone, and behind each word. -/
def Operator.keys (text : String) : List (String × Operator) :=
  (text, .eq) :: words.map fun e => (e.1 ++ "-" ++ text, e.2)

/-- The value that asks for an order by what a text names. -/
def Direction.value (d : Direction) (text : String) : String := d.word ++ "-" ++ text

namespace Query

variable {s : Schema} {text key value : String} {i j : Fin s.fields.length}

/-- A text leads to a field: every parameter that asks with the text, and nothing else, makes the
query with the one condition on the field, or with the order by it. -/
structure LeadsTo (s : Schema) (text : String) (i : Fin s.fields.length) : Prop where
  condition : ∀ key op, (key, op) ∈ Operator.keys text → ∀ value,
    compile s [(key, value)]
      = .ok { blank with conditions := [⟨(s.fields.get i).name, op, op.operand value⟩] }
  order : ∀ d : Direction, compile s [("q-order", d.value text)]
    = .ok { blank with order := some ⟨(s.fields.get i).name, d⟩ }

/-- A text leads nowhere: conditions on what it names are dropped, and orders by it are refused. -/
structure Ignored (s : Schema) (text : String) : Prop where
  condition : ∀ key op, (key, op) ∈ Operator.keys text → ∀ value,
    compile s [(key, value)] = .ok blank
  order : ∀ d : Direction, compile s [("q-order", d.value text)]
    = .error (.unknownOrderField text)

/-! ## Queries of one parameter -/

/-- The keys that do not ask for conditions. -/
def ownKeys : List String := ["q-order", "q-limit", "q-offset", "q-fields"]

theorem split_of_ownKeys {own : String} (h : own ∈ ownKeys) :
    ∃ rest, Text.split '-' own = ["q", rest] := by
  fin_cases h <;> exact ⟨_, rfl⟩

/-- A key of any other form than the four makes at most a condition. -/
theorem compile_single (form : ∀ rest, Text.split '-' key ≠ ["q", rest]) (value : String) :
    compile s [(key, value)]
      = .ok { blank with conditions := (s.condition? key value).toList } := by
  have unasked : ∀ own ∈ ownKeys, [(key, value)].lookup own = none := by
    intro own listed
    obtain ⟨rest, cut⟩ := split_of_ownKeys listed
    have other : own ≠ key := fun same => form rest (same ▸ cut)
    rw [List.lookup_cons, beq_false_of_ne other, List.lookup_nil]
  have order := unasked "q-order" (by decide)
  have limit := unasked "q-limit" (by decide)
  have offset := unasked "q-offset" (by decide)
  have fields := unasked "q-fields" (by decide)
  rw [compile_eq]
  unfold orderAsked unordered
  simp only [order, limit, offset, fields, Option.map_none, Option.getD_none]
  cases h : s.condition? key value <;> simp [firsts, h, Condition.sort, Sorting.sort] <;> rfl

/-- The key for an order makes an order and nothing else. -/
theorem compile_order (value : String) : compile s [("q-order", value)]
    = (s.order value).map fun o => { blank with order := some o } := by
  have dropped : s.condition? "q-order" value = none := rfl
  rw [compile_eq]
  cases h : s.order value <;> simp [orderAsked, unordered, firsts, dropped, h] <;> rfl

/-- The keys of a text without dashes have at most one dash, behind a word. -/
theorem split_of_keys {op : Operator} (clean : '-' ∉ text.toList)
    (h : (key, op) ∈ Operator.keys text) : Text.split '-' key = [text] ∧ op = .eq ∨
      ∃ word, (word, op) ∈ Operator.words ∧ Text.split '-' key = [word, text] := by
  rcases List.mem_cons.mp h with alone | behind
  · obtain ⟨rfl, rfl⟩ := Prod.mk.inj alone
    exact .inl ⟨Text.split_eq_singleton_iff.mpr ⟨rfl, clean⟩, rfl⟩
  · obtain ⟨⟨word, op⟩, known, same⟩ := List.mem_map.mp behind
    obtain ⟨rfl, rfl⟩ := Prod.mk.inj same
    exact .inr ⟨word, known,
      Text.split_eq_pair_iff.mpr ⟨Operator.dashFree_of_words known, clean, rfl⟩⟩

/-- The keys of a text without dashes ask for a condition on the field that is found for it. -/
theorem condition?_of_keys {op : Operator} (clean : '-' ∉ text.toList)
    (h : (key, op) ∈ Operator.keys text) (value : String) : s.condition? key value =
      (s.filterable? text).map fun name => ⟨name, op, op.operand value⟩ := by
  unfold Schema.condition?
  rcases split_of_keys clean h with ⟨parts, rfl⟩ | ⟨word, known, parts⟩
  · rw [parts]
    rfl
  · rw [parts]
    simp only [Operator.ofPrefix?_eq_some_iff.mpr known]
    cases s.filterable? text <;> rfl

theorem compile_keys {op : Operator} (clean : '-' ∉ text.toList)
    (h : (key, op) ∈ Operator.keys text) (value : String) : compile s [(key, value)] =
      .ok { blank with conditions :=
        ((s.filterable? text).map fun name => ⟨name, op, op.operand value⟩).toList } := by
  rw [compile_single ?_, condition?_of_keys clean h]
  rintro rest cut
  rcases split_of_keys clean h with ⟨parts, -⟩ | ⟨word, known, parts⟩
  · exact absurd (parts.symm.trans cut) (by simp)
  · -- no word is the letter that the four keys begin with
    obtain rfl : word = "q" := (List.cons.inj (parts.symm.trans cut)).1
    simp [Operator.words] at known

theorem order_value (clean : '-' ∉ text.toList) (d : Direction) : s.order (d.value text) =
    (s.filterable? text).elim (.error (.unknownOrderField text)) fun name => .ok ⟨name, d⟩ := by
  have dashFree : '-' ∉ d.word.toList := by cases d <;> decide
  have parts : Text.split '-' (d.value text) = [d.word, text] :=
    Text.split_eq_pair_iff.mpr ⟨dashFree, clean, rfl⟩
  unfold Schema.order
  simp only [parts]
  cases s.filterable? text with
  | none => rfl
  | some name => cases d <;> rfl

/-! ## The first field that answers -/

/-- **A text leads to the first field that answers to it**, if the field has a column. -/
theorem leadsTo_of_persisted (clean : '-' ∉ text.toList) (first : s.lookup? text = some j)
    (persisted : (s.fields.get j).isPersisted = true) : LeadsTo s text j := by
  have found : s.filterable? text = some (s.fields.get j).name := by
    simp only [Schema.filterable?, first, if_pos persisted]
  refine ⟨fun key op h value => ?_, fun d => ?_⟩
  · rw [compile_keys clean h, found]
    rfl
  · rw [compile_order, order_value clean, found]
    rfl

/-- **It leads nowhere** if the first field that answers to it has none. -/
theorem ignored_of_unpersisted (clean : '-' ∉ text.toList) (first : s.lookup? text = some j)
    (unpersisted : (s.fields.get j).isPersisted = false) : Ignored s text := by
  have lost : s.filterable? text = none := by
    simp only [Schema.filterable?, first, unpersisted, Bool.false_eq_true, if_false]
  refine ⟨fun key op h value => ?_, fun d => ?_⟩
  · rw [compile_keys clean h, lost]
    rfl
  · rw [compile_order, order_value clean, lost]
    rfl

/-- Where names do not repeat, a text leads to one field at most. -/
theorem LeadsTo.unique (sound : s.Sound) (hi : LeadsTo s text i) (hj : LeadsTo s text j) :
    i = j := by
  have same := (hi.order .ascending).symm.trans (hj.order .ascending)
  have names : (s.fields.get i).name = (s.fields.get j).name := by simpa using same
  have found := (Schema.index?_eq_some_iff sound).mpr names
  rw [(Schema.index?_eq_some_iff sound).mpr rfl] at found
  exact (Option.some.inj found).symm

theorem LeadsTo.not_ignored (h : LeadsTo s text i) : ¬ Ignored s text := fun ignored =>
  absurd ((h.order .ascending).symm.trans (ignored.order .ascending)) (by simp)

/-- A field answers to its name, so that some field is found for it, and none behind this one. -/
theorem exists_lookup_name (i : Fin s.fields.length) :
    ∃ j ≤ i, s.lookup? (s.fields.get i).name = some j := by
  have answers : (s.fields.get i).AnswersTo (s.fields.get i).name := .inl rfl
  obtain ⟨j, first⟩ : ∃ j, s.lookup? (s.fields.get i).name = some j := by
    rw [← Option.isSome_iff_exists, Schema.lookup?, List.isSome_findFinIdx?, List.any_eq_true]
    exact ⟨s.fields.get i, List.get_mem _ _, by simp⟩
  refine ⟨j, ?_, first⟩
  by_contra behind
  exact (Schema.lookup?_eq_some_iff.mp first).2 i (not_le.mp behind) answers

/-- **A name leads to its field unless an earlier field answers to it.** The field has a column, and
its name no dashes. Of the fields that answer to the name, by name or document key and whatever the
case of letters, the first gets what is asked with it, and if that one has no column, then
conditions are dropped and orders refused. -/
theorem leadsTo_name_iff (resolved : s.Resolved) (i : Fin s.fields.length)
    (persisted : (s.fields.get i).isPersisted = true)
    (clean : '-' ∉ (s.fields.get i).name.toList) :
    (LeadsTo s (s.fields.get i).name i ↔
      ∀ j < i, ¬ (s.fields.get j).AnswersTo (s.fields.get i).name) ∧
    ∃ j ≤ i, (s.fields.get j).AnswersTo (s.fields.get i).name ∧
      (∀ k < j, ¬ (s.fields.get k).AnswersTo (s.fields.get i).name) ∧
      if (s.fields.get j).isPersisted then LeadsTo s (s.fields.get i).name j
      else Ignored s (s.fields.get i).name := by
  obtain ⟨j, upTo, found⟩ := exists_lookup_name i
  obtain ⟨answers, first⟩ := Schema.lookup?_eq_some_iff.mp found
  refine ⟨⟨fun leads => ?_, fun unanswered => ?_⟩, j, upTo, answers, first, ?_⟩
  · -- what the name leads to is the first field that answers
    cases kept : (s.fields.get j).isPersisted with
    | true =>
      obtain rfl := leads.unique resolved.sound (leadsTo_of_persisted clean found kept)
      exact first
    | false => exact absurd (ignored_of_unpersisted clean found kept) leads.not_ignored
  · obtain rfl : j = i := upTo.eq_of_not_lt fun before => unanswered j before answers
    exact leadsTo_of_persisted clean found persisted
  · split
    · rename_i kept
      exact leadsTo_of_persisted clean found kept
    · rename_i lost
      exact ignored_of_unpersisted clean found (Bool.eq_false_iff.mpr lost)

theorem leadsTo_name_title :
    note.Resolved ∧ (note.fields.get ⟨1, by decide⟩).isPersisted = true ∧
      '-' ∉ (note.fields.get ⟨1, by decide⟩).name.toList ∧
      LeadsTo note "title" ⟨1, by decide⟩ := by
  have found : note.lookup? "title" = some ⟨1, by decide⟩ := by decide
  obtain ⟨-, unanswered⟩ := Schema.lookup?_eq_some_iff.mp found
  obtain ⟨leads, -⟩ := leadsTo_name_iff resolved_note ⟨1, by decide⟩ rfl (by decide)
  exact ⟨resolved_note, rfl, by decide, leads.mpr unanswered⟩

/-! ## Names that are taken -/

/-- The descriptor of accounts: the document keys of the second field and of the fourth, which has
no column, are the names of the fields behind them but for case. -/
def accounts : Descriptor where
  resources := [{
    name := "account"
    collection := none
    primaryKey := "id"
    autoKey := true
    created := none
    updated := none
    softDelete := none
    operations := [.list]
    fields := [noteField "id" .int none none, noteField "user_name" .string none none,
      noteField "username" .string none none,
      { noteField "nick_name" .string none none with column := some "-" },
      noteField "nickname" .string none none] }]

/-- The schema of accounts. -/
def account : Schema where
  name := "account"
  collection := "account"
  fields := [noteColumn "id" .int (some "id") none,
    noteColumn "user_name" .string (some "userName") none,
    noteColumn "username" .string (some "username") none,
    { noteColumn "nick_name" .string (some "nickName") none with column := none },
    noteColumn "nickname" .string (some "nickname") none]
  primaryKey := ⟨0, by decide⟩
  autoKey := true
  created := none
  updated := none
  softDelete := none
  operations := [.list]

theorem accounts_resolve : accounts.resolve = .ok ⟨[account]⟩ := by cbv

/-- **A name may be taken**: the accounts resolve, and the name of the third field leads to the
second one, the name of the last field nowhere. -/
theorem name_may_be_taken :
    account.Resolved ∧
    (account.fields.map fun f => (f.name, f.isPersisted)) = [("id", true), ("user_name", true),
      ("username", true), ("nick_name", false), ("nickname", true)] ∧
    LeadsTo account "username" ⟨1, by decide⟩ ∧
    compile account [("username", "x")]
      = .ok { blank with conditions := [⟨"user_name", .eq, .single "x"⟩] } ∧
    Ignored account "nickname" ∧
    compile account [("nickname", "x")] = .ok blank ∧
    compile account [("q-order", "asc-nickname")] = .error (.unknownOrderField "nickname") := by
  have resolved : account.Resolved :=
    ⟨accounts, ⟨[account]⟩, accounts_resolve, List.mem_singleton_self _⟩
  have strays : LeadsTo account "username" ⟨1, by decide⟩ :=
    leadsTo_of_persisted (by decide) (by decide) rfl
  have lost : Ignored account "nickname" :=
    ignored_of_unpersisted (s := account) (j := ⟨3, by decide⟩) (by decide) (by decide) rfl
  exact ⟨resolved, rfl, strays, strays.condition _ .eq (List.mem_cons_self ..) "x", lost,
    lost.condition _ .eq (List.mem_cons_self ..) "x", lost.order .ascending⟩

end Query

end Registrar
