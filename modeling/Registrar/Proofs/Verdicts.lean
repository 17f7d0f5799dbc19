import Registrar.Proofs.Acceptance
import Registrar.Proofs.Valid
import Registrar.Validator

/-!
# What a verdict says

Every rule of every field is checked, whatever came before it. So a verdict names all the fields
that fail, and a fatal failure is the answer wherever it stands, in place of a verdict. Of several
it is the first, in the order of the fields and of their rules (`fatals`); that is all that the
order of either decides.

* `foldlM_judge_cases`: what a pass over values adds to the verdict it starts from.
* `validate_of_reordered`: the same values in another order are judged alike.
* **`Record.validate_complete`**: the verdict on a record, and on its values by themselves.
* `Record.validate_of_tags`: a validator that is given the values of a record with the tags of
  their fields answers as the record does.
-/

namespace Registrar

/-! ## Mappings by their answers -/

namespace Entries

variable {α : Type} {m m' : Entries α} {k : String} {a : α}

theorem get?_eq_some_iff (h : m.Ascending) : get? m k = some a ↔ (k, a) ∈ m := by
  induction m with
  | nil => simp [get?]
  | cons e rest ih =>
    obtain ⟨j, b⟩ := e
    obtain ⟨before, rests⟩ := List.pairwise_cons.mp h
    rw [get?, List.mem_cons]
    split
    · rename_i same
      subst same
      constructor
      · intro found
        obtain rfl := Option.some.inj found
        exact .inl rfl
      · rintro (found | later)
        · rw [(Prod.mk.inj found).2]
        · exact absurd (before j (List.mem_map_of_mem later)) (String.lt_irrefl j)
    · rename_i other
      rw [ih rests]
      exact ⟨.inr, fun found => found.resolve_left fun same => other (Prod.mk.inj same).1.symm⟩

/-- Mappings that answer alike are written alike. -/
theorem eq_of_get? (h : m.Ascending) (h' : m'.Ascending) (same : ∀ k, get? m k = get? m' k) :
    m = m' := by
  have pairs : m.Pairwise fun a b => a.1 < b.1 := List.pairwise_map.mp h
  have pairs' : m'.Pairwise fun a b => a.1 < b.1 := List.pairwise_map.mp h'
  have members : ∀ e, e ∈ m ↔ e ∈ m' := fun e => by
    rw [← get?_eq_some_iff h, ← get?_eq_some_iff h', same]
  have : Std.Irrefl fun a b : String × α => a.1 < b.1 := ⟨fun e => String.lt_irrefl e.1⟩
  have : Std.Antisymm fun a b : String × α => a.1 < b.1 :=
    ⟨fun a b ab ba => absurd (String.lt_trans ab ba) (String.lt_irrefl a.1)⟩
  exact pairs.eq_of_mem_iff pairs' members

theorem mem_keys_iff : k ∈ keys m ↔ (get? m k).isSome := by
  induction m with
  | nil => simp [keys, get?]
  | cons e rest ih =>
    obtain ⟨j, b⟩ := e
    show k ∈ j :: keys rest ↔ _
    rw [get?, List.mem_cons, ih]
    by_cases same : j = k
    · simp [same]
    · simp [same, Ne.symm same]

end Entries

/-! ## What is asked of one value -/

/-- Some rule of a candidate gives an answer of a sort: it fails, or it is fatal. -/
def Candidate.Has (answer : String → Outcome) (c : Candidate) : Prop :=
  ∃ r ∈ c.rules, ∃ name, r.check c.value = answer name

/-- The fatal answers to a candidate, in the order of its rules. -/
def Candidate.fatals (c : Candidate) : List Fatal :=
  c.rules.filterMap fun r =>
    match r.check c.value with
    | .fatal rule => some ⟨c.field, rule⟩
    | _ => none

/-- The fatal answers to candidates, in their order and that of their rules. -/
def fatals (candidates : List Candidate) : List Fatal := candidates.flatMap Candidate.fatals

namespace Candidate

/-- All rules are checked up to the first that is fatal. -/
theorem failsAny_cases (field : String) (v : Value) (rules : List Rule) :
    (∃ rule rest, fatals ⟨field, v, rules⟩ = ⟨field, rule⟩ :: rest ∧
      failsAny v rules = .error rule) ∨
    (fatals ⟨field, v, rules⟩ = [] ∧ ∃ failed, failsAny v rules = .ok failed ∧
      (failed = true ↔ Has .fail ⟨field, v, rules⟩)) := by
  unfold fatals Has
  induction rules with
  | nil => exact .inr ⟨rfl, false, rfl, by simp⟩
  | cons r rest ih =>
    simp only [List.filterMap_cons, List.exists_mem_cons_iff]
    rw [failsAny]
    cases answer : r.check v with
    | pass => simpa [answer] using ih
    | fail name =>
      rcases ih with ⟨rule, others, fatal, stops⟩ | ⟨none, failed, ok, -⟩
      · rw [stops]
        exact .inl ⟨rule, others, fatal, rfl⟩
      · rw [ok]
        exact .inr ⟨none, true, rfl, by simp⟩
    | fatal rule => exact .inl ⟨rule, _, rfl, rfl⟩

/-- What one value adds to a verdict, if it is not fatal. -/
theorem judge_cases (verdict : Verdict) (c : Candidate) :
    (∃ e rest, c.fatals = e :: rest ∧ c.judge verdict = .error e) ∨
    (c.fatals = [] ∧ c.Has .fail ∧ c.judge verdict = .ok (verdict.fail c.field)) ∨
    (c.fatals = [] ∧ ¬ c.Has .fail ∧ c.judge verdict = .ok verdict) := by
  unfold judge
  rcases failsAny_cases c.field c.value c.rules with
    ⟨rule, rest, fatal, stops⟩ | ⟨none, failed, ok, fails⟩
  · rw [stops]
    exact .inl ⟨_, rest, fatal, rfl⟩
  · rw [ok]
    cases failed with
    | true => exact .inr (.inl ⟨none, fails.mp rfl, rfl⟩)
    | false => exact .inr (.inr ⟨none, fun h => absurd (fails.mpr h) (by simp), rfl⟩)

theorem fatals_eq_nil {c : Candidate} : c.fatals = [] ↔ ¬ c.Has .fatal := by
  unfold fatals Has
  rw [List.filterMap_eq_nil_iff]
  constructor
  · rintro none ⟨r, hr, name, fatal⟩
    have h := none r hr
    rw [fatal] at h
    exact absurd h (by simp)
  · intro none r hr
    split
    · rename_i rule fatal
      exact absurd ⟨r, hr, rule, fatal⟩ none
    · rfl

end Candidate

/-! ## A pass over values -/

/-- The verdict that candidates lead to from another one: what fails is marked, and nothing else
is. -/
structure Judged (candidates : List Candidate) (before after : Verdict) : Prop where
  ascending : before.errors.Ascending → after.errors.Ascending
  marked : ∀ field, (∃ c ∈ candidates, c.field = field ∧ c.Has .fail) →
    after.errors.get? field = some (Verdict.complaint field)
  kept : ∀ field, (¬ ∃ c ∈ candidates, c.field = field ∧ c.Has .fail) →
    after.errors.get? field = before.errors.get? field

theorem Judged.nil (verdict : Verdict) : Judged [] verdict verdict :=
  ⟨id, fun _ ⟨_, hc, _⟩ => absurd hc List.not_mem_nil, fun _ _ => rfl⟩

variable {candidates candidates' : List Candidate} {c : Candidate}
  {before after verdict verdict' : Verdict}

/-- What a first candidate that does not fail adds. -/
theorem Judged.pass (hc : ¬ c.Has .fail) (h : Judged candidates before after) :
    Judged (c :: candidates) before after where
  ascending := h.ascending
  marked field := by
    rintro ⟨d, hd, same, fails⟩
    rcases List.mem_cons.mp hd with rfl | hd
    · exact absurd fails hc
    · exact h.marked field ⟨d, hd, same, fails⟩
  kept field none := h.kept field fun ⟨d, hd, fails⟩ => none ⟨d, List.mem_cons_of_mem c hd, fails⟩

/-- What a first candidate that fails adds. -/
theorem Judged.fail (hc : c.Has .fail) (h : Judged candidates (before.fail c.field) after) :
    Judged (c :: candidates) before after where
  ascending ha := h.ascending (Entries.ascending_put ha)
  marked field := by
    intro marks
    by_cases later : ∃ d ∈ candidates, d.field = field ∧ d.Has .fail
    · exact h.marked field later
    · -- the mark is the first candidate's, and it is left as it is
      obtain ⟨d, hd, rfl, fails⟩ := marks
      rcases List.mem_cons.mp hd with rfl | hd
      · rw [h.kept _ later]
        exact Entries.get?_put_self _ _ _
      · exact absurd ⟨d, hd, rfl, fails⟩ later
  kept field none := by
    rw [h.kept field fun ⟨d, hd, fails⟩ => none ⟨d, List.mem_cons_of_mem c hd, fails⟩]
    exact Entries.get?_put_of_ne fun same => none ⟨c, List.mem_cons_self, same, hc⟩

/-- **A pass over values** stops at the first fatal answer, or marks all that fails. -/
theorem foldlM_judge_cases (candidates : List Candidate) (verdict : Verdict) :
    (∃ e rest, fatals candidates = e :: rest ∧
      candidates.foldlM Candidate.judge verdict = .error e) ∨
    (fatals candidates = [] ∧ ∃ verdict', candidates.foldlM Candidate.judge verdict = .ok verdict' ∧
      Judged candidates verdict verdict') := by
  unfold fatals
  induction candidates generalizing verdict with
  | nil => exact .inr ⟨rfl, verdict, rfl, .nil verdict⟩
  | cons c rest ih =>
    rw [List.flatMap_cons, List.foldlM_cons]
    rcases c.judge_cases verdict with
      ⟨e, others, fatal, stops⟩ | ⟨none, hc, judged⟩ | ⟨none, hc, judged⟩
    · rw [fatal, stops]
      exact .inl ⟨e, _, rfl, rfl⟩
    · rw [none, judged]
      exact (ih (verdict.fail c.field)).imp_right fun ⟨calm, after, ok, h⟩ =>
        ⟨calm, after, ok, h.fail hc⟩
    · rw [none, judged]
      exact (ih verdict).imp_right fun ⟨calm, after, ok, h⟩ => ⟨calm, after, ok, h.pass hc⟩

/-! ## Verdicts -/

/-- What candidates are answered: the first fatal answer, or a verdict that marks all that fails
and nothing else. -/
theorem validate_cases (candidates : List Candidate) :
    (∃ e rest, fatals candidates = e :: rest ∧ validate candidates = .error e) ∨
    (fatals candidates = [] ∧ ∃ verdict, validate candidates = .ok verdict ∧
      Judged candidates .empty verdict) :=
  foldlM_judge_cases candidates .empty

theorem validate_eq_error_iff {e : Fatal} :
    validate candidates = .error e ↔ (fatals candidates).head? = some e := by
  rcases validate_cases candidates with ⟨e', rest, fatal, stops⟩ | ⟨none, verdict, ok, -⟩
  · rw [fatal, stops, Except.error.injEq, List.head?_cons, Option.some.injEq]
  · rw [none, ok]
    simp

theorem fatals_eq_nil : fatals candidates = [] ↔ ¬ ∃ c ∈ candidates, c.Has .fatal := by
  unfold fatals
  rw [List.flatMap_eq_nil_iff]
  simp only [Candidate.fatals_eq_nil, not_exists, not_and]

theorem exists_validate_eq_error_iff :
    (∃ e, validate candidates = .error e) ↔ ∃ c ∈ candidates, c.Has .fatal := by
  rw [← not_iff_not, ← fatals_eq_nil]
  rcases validate_cases candidates with ⟨e, rest, fatal, stops⟩ | ⟨none, verdict, ok, -⟩
  · rw [fatal, stops]
    simp
  · rw [none, ok]
    simp

/-- A verdict is that of a pass over all the values. -/
theorem judged_of_validate (h : validate candidates = .ok verdict) :
    Judged candidates .empty verdict := by
  rcases validate_cases candidates with ⟨e, rest, -, stops⟩ | ⟨-, verdict', ok, judged⟩
  · exact absurd (stops.symm.trans h) (by simp)
  · rw [← Except.ok.inj (ok.symm.trans h)]
    exact judged

namespace Judged

variable {field : String}

theorem ascending_empty (h : Judged candidates .empty verdict) : verdict.errors.Ascending :=
  h.ascending List.Pairwise.nil

/-- What is said of a field, if anything, is that it fails. -/
theorem get?_eq_some_iff (h : Judged candidates .empty verdict) {text : String} :
    verdict.errors.get? field = some text ↔
      (∃ c ∈ candidates, c.field = field ∧ c.Has .fail) ∧ text = Verdict.complaint field := by
  by_cases marks : ∃ c ∈ candidates, c.field = field ∧ c.Has .fail
  · rw [h.marked field marks, Option.some.injEq]
    exact ⟨fun same => ⟨marks, same.symm⟩, fun h => h.2.symm⟩
  · rw [h.kept field marks]
    simp [marks, Verdict.empty, Entries.get?]

/-- **The keys of a verdict** are the names of the fields that fail. -/
theorem mem_keys_iff (h : Judged candidates .empty verdict) :
    field ∈ verdict.errors.keys ↔ ∃ c ∈ candidates, c.field = field ∧ c.Has .fail := by
  rw [Entries.mem_keys_iff, Option.isSome_iff_exists]
  simp [h.get?_eq_some_iff]

theorem isValid_iff (h : Judged candidates .empty verdict) :
    verdict.isValid = true ↔ ∀ c ∈ candidates, ¬ c.Has .fail := by
  unfold Verdict.isValid
  rw [List.isEmpty_iff]
  constructor
  · intro none c hc fails
    have marked := h.marked c.field ⟨c, hc, rfl, fails⟩
    rw [none] at marked
    exact absurd marked (by simp [Entries.get?])
  · intro pass
    refine Entries.eq_of_get? h.ascending_empty List.Pairwise.nil fun field => h.kept field ?_
    rintro ⟨c, hc, -, fails⟩
    exact pass c hc fails

/-- Two passes that mark the same make the same verdict. -/
theorem unique (h : Judged candidates .empty verdict) (h' : Judged candidates' .empty verdict')
    (same : ∀ field, (∃ c ∈ candidates, c.field = field ∧ c.Has .fail) ↔
      ∃ c ∈ candidates', c.field = field ∧ c.Has .fail) : verdict = verdict' := by
  have errors : verdict.errors = verdict'.errors := by
    refine Entries.eq_of_get? h.ascending_empty h'.ascending_empty fun field => ?_
    refine Option.ext fun text => ?_
    rw [h.get?_eq_some_iff, h'.get?_eq_some_iff, same]
  cases verdict
  cases verdict'
  exact congrArg Verdict.mk errors

end Judged

/-! ## The order of fields and rules -/

/-- The same value in the same field, but for the order of its rules. -/
structure Candidate.Shuffled (c d : Candidate) : Prop where
  field : d.field = c.field
  value : d.value = c.value
  rules : c.rules.Perm d.rules

/-- The same candidates, but for their order and that of the rules of each. -/
def Reordered (candidates candidates' : List Candidate) : Prop :=
  ∃ shuffled, List.Forall₂ Candidate.Shuffled candidates shuffled ∧ shuffled.Perm candidates'

/-- Two answers to the same values: one verdict, or a fatal failure each. -/
def Agree (a b : Except Fatal Verdict) : Prop :=
  (∃ verdict, a = .ok verdict ∧ b = .ok verdict) ∨ ∃ e e', a = .error e ∧ b = .error e'

theorem Candidate.Shuffled.has {c d : Candidate} (h : c.Shuffled d) (answer : String → Outcome) :
    c.Has answer ↔ d.Has answer := by
  unfold Has
  rw [h.value]
  simp only [h.rules.mem_iff]

/-- What some candidate has that does not depend on the order of its rules, one has in any order. -/
theorem Reordered.exists_iff {p : Candidate → Prop} (hp : ∀ {c d}, c.Shuffled d → (p c ↔ p d))
    (h : Reordered candidates candidates') : (∃ c ∈ candidates, p c) ↔ ∃ c ∈ candidates', p c := by
  obtain ⟨shuffled, each, perm⟩ := h
  simp only [← perm.mem_iff]
  clear perm
  induction each with
  | nil => rfl
  | cons head _ ih => rw [List.exists_mem_cons_iff, List.exists_mem_cons_iff, hp head, ih]

/-- **Order decides no more than which fatal answer comes first.** -/
theorem validate_of_reordered (h : Reordered candidates candidates') :
    Agree (validate candidates) (validate candidates') := by
  have fatal : (∃ c ∈ candidates, c.Has .fatal) ↔ ∃ c ∈ candidates', c.Has .fatal :=
    h.exists_iff fun shuffled => shuffled.has _
  have fails : ∀ field, (∃ c ∈ candidates, c.field = field ∧ c.Has .fail) ↔
      ∃ c ∈ candidates', c.field = field ∧ c.Has .fail := fun field =>
    h.exists_iff fun shuffled => by rw [shuffled.field, shuffled.has]
  rw [← exists_validate_eq_error_iff, ← exists_validate_eq_error_iff] at fatal
  cases first : validate candidates with
  | error e =>
    obtain ⟨e', second⟩ := fatal.mp ⟨e, first⟩
    exact .inr ⟨e, e', rfl, second⟩
  | ok verdict =>
    cases second : validate candidates' with
    | error e' =>
      obtain ⟨e, stops⟩ := fatal.mpr ⟨e', second⟩
      exact absurd (first.symm.trans stops) (by simp)
    | ok verdict' =>
      obtain rfl := (judged_of_validate first).unique (judged_of_validate second) fails
      exact .inl ⟨verdict, rfl, rfl⟩

/-! ## Validators -/

namespace Validator

/-- The values that a validator was given. -/
def given (v : Validator) : List Candidate := v.entries.map fun e => ⟨e.1, e.2.1, e.2.2⟩

theorem judgeAll_eq (verdict : Verdict) (entries : List (String × Value × List Rule)) :
    judgeAll verdict entries
      = (entries.map fun e => ⟨e.1, e.2.1, e.2.2⟩).foldlM Candidate.judge verdict := by
  induction entries generalizing verdict with
  | nil => rfl
  | cons e rest ih =>
    rw [List.map_cons, List.foldlM_cons, judgeAll]
    exact congrArg _ (funext ih)

/-- The loop of a validator and the pass over values by themselves are one. -/
theorem validate_eq (v : Validator) : v.validate = Registrar.validate v.given :=
  judgeAll_eq .empty v.entries

theorem given_add (v : Validator) (key : String) (value : Value) (rules : List Rule) :
    (v.add key value rules).given = v.given ++ [⟨key, value, rules⟩] :=
  List.map_append

/-- Take values, each with its rules, one after the other. -/
def addAll (v : Validator) (candidates : List Candidate) : Validator :=
  candidates.foldl (fun v c => v.add c.field c.value c.rules) v

theorem given_addAll (v : Validator) (candidates : List Candidate) :
    (v.addAll candidates).given = v.given ++ candidates := by
  induction candidates generalizing v with
  | nil => exact (List.append_nil _).symm
  | cons c rest ih =>
    show ((v.add c.field c.value c.rules).addAll rest).given = _
    rw [ih, given_add, List.append_assoc]
    rfl

/-- Take values with the tags of their fields, one after the other. -/
def addTags (v : Validator) (cells : List (Field × Value)) : Except Rule.Fault Validator :=
  cells.foldlM (fun v c => v.addTag c.1.name c.2 c.1.tag) v

theorem addTags_eq (v : Validator) {cells : List (Field × Value)}
    (tags : ∀ c ∈ cells, Rule.parseTag c.1.tag = .ok c.1.rules) :
    v.addTags cells = .ok (v.addAll (cells.map fun c => ⟨c.1.name, c.2, c.1.rules⟩)) := by
  induction cells generalizing v with
  | nil => rfl
  | cons c rest ih =>
    obtain ⟨first, others⟩ := List.forall_mem_cons.mp tags
    have taken : v.addTag c.1.name c.2 c.1.tag = .ok (v.add c.1.name c.2 c.1.rules) := by
      rw [addTag, first]
      rfl
    unfold addTags
    rw [List.foldlM_cons, taken]
    exact ih _ others

end Validator

/-! ## Records -/

namespace Record

/-- The values of a record by themselves, with the names and the rules of their fields. -/
def entries (r : Record) : List Candidate :=
  List.zipWith (fun f v => ⟨f.name, v, f.rules⟩) r.schema.fields r.values

theorem candidates_eq_entries (r : Record) : r.candidates = r.entries := by
  unfold candidates cells Schema.indexed entries
  refine List.ext_getElem (by simp [r.length_values]) fun i hi hi' => ?_
  simp [value]

theorem validate_eq (r : Record) : r.validate = Registrar.validate r.entries := by
  rw [← candidates_eq_entries]
  rfl

/-- A validator that is given the values of a record answers as the record does. -/
theorem validate_addAll (r : Record) : (Validator.new.addAll r.entries).validate = r.validate := by
  rw [Validator.validate_eq, Validator.given_addAll, validate_eq]
  rfl

/-- **A validator that is given the values of a record with the tags of their fields** takes them
all and answers as the record does, where the rules of the fields are those of their tags. -/
theorem validate_of_tags (r : Record)
    (tags : ∀ f ∈ r.schema.fields, Rule.parseTag f.tag = .ok f.rules) :
    ∃ v, Validator.new.addTags (r.cells.map (·.2)) = .ok v ∧ v.validate = r.validate := by
  refine ⟨Validator.new.addAll r.entries, ?_, r.validate_addAll⟩
  have fields : ∀ c ∈ r.cells.map (·.2), Rule.parseTag c.1.tag = .ok c.1.rules := by
    intro c hc
    obtain ⟨e, he, rfl⟩ := List.mem_map.mp hc
    obtain ⟨i, rfl⟩ := mem_cells.mp he
    exact tags _ (List.get_mem _ i)
  rw [Validator.addTags_eq .new fields, ← candidates_eq_entries, List.map_map]
  rfl

/-- Some rule of a field gives an answer of a sort to the value that a record holds there. -/
def FieldHas (r : Record) (answer : String → Outcome) (f : Field) : Prop :=
  ∃ (i : Nat) (v : Value), r.schema.fields[i]? = some f ∧ r.values[i]? = some v ∧
    ∃ rule ∈ f.rules, ∃ name, rule.check v = answer name

theorem exists_entries_iff {r : Record} {answer : String → Outcome} {p : String → Prop} :
    (∃ c ∈ r.entries, p c.field ∧ c.Has answer) ↔ ∃ f, p f.name ∧ r.FieldHas answer f := by
  unfold entries FieldHas
  constructor
  · rintro ⟨c, hc, named, has⟩
    obtain ⟨i, hi⟩ := List.mem_iff_getElem?.mp hc
    obtain ⟨f, v, hf, hv, rfl⟩ := List.getElem?_zipWith_eq_some.mp hi
    exact ⟨f, named, i, v, hf, hv, has⟩
  · rintro ⟨f, named, i, v, hf, hv, has⟩
    refine ⟨⟨f.name, v, f.rules⟩, List.mem_iff_getElem?.mpr ⟨i, ?_⟩, named, has⟩
    exact List.getElem?_zipWith_eq_some.mpr ⟨f, v, hf, hv, rfl⟩

/-- What the verdict on a record says: it names the fields that fail, each in the same words. -/
structure Names (r : Record) (verdict : Verdict) : Prop where
  keys : ∀ name, name ∈ verdict.errors.keys ↔ ∃ f, f.name = name ∧ r.FieldHas .fail f
  words : ∀ name text, verdict.errors.get? name = some text → text = Verdict.complaint name
  valid : verdict.isValid = true ↔ ∀ f, ¬ r.FieldHas .fail f

theorem names_of_validate {r : Record} {verdict : Verdict} (h : r.validate = .ok verdict) :
    r.Names verdict := by
  rw [validate_eq] at h
  have judged := judged_of_validate h
  refine ⟨fun name => ?_, fun name text said => (judged.get?_eq_some_iff.mp said).2, ?_⟩
  · rw [judged.mem_keys_iff]
    exact exists_entries_iff (p := (· = name))
  · rw [judged.isValid_iff, ← not_iff_not]
    simpa using @exists_entries_iff r .fail fun _ => True

/-- **What the validation of a record answers.** If some rule of some field is fatal, the answer is
the first fatal failure, in the order of the fields and of their rules, whatever else fails. If none
is, it is a verdict that names the fields that fail. The values by themselves, with the names and
rules of their fields, are answered alike; and in another order of fields and rules there is the
same verdict, or a fatal failure, which may be another one. -/
theorem validate_complete (r : Record) :
    ((∃ e, (fatals r.entries).head? = some e ∧ r.validate = .error e ∧
        ∃ f, r.FieldHas .fatal f) ∨
      ((∀ f, ¬ r.FieldHas .fatal f) ∧ ∃ verdict, r.validate = .ok verdict ∧ r.Names verdict)) ∧
    Registrar.validate r.entries = r.validate ∧
    (∀ candidates, Reordered r.entries candidates →
      Agree r.validate (Registrar.validate candidates)) ∧
    (∀ r' : Record, Reordered r.entries r'.entries → Agree r.validate r'.validate) ∧
    (Validator.new.addAll r.entries).validate = r.validate := by
  refine ⟨?_, r.validate_eq.symm, fun candidates order => ?_, fun r' order => ?_,
    r.validate_addAll⟩
  · have fatal : (∃ c ∈ r.entries, c.Has .fatal) ↔ ∃ f, r.FieldHas .fatal f := by
      simpa using @exists_entries_iff r .fatal fun _ => True
    rw [← exists_validate_eq_error_iff, ← validate_eq] at fatal
    cases answer : r.validate with
    | error e =>
      refine .inl ⟨e, ?_, rfl, fatal.mp ⟨e, answer⟩⟩
      rw [← validate_eq_error_iff, ← validate_eq, answer]
    | ok verdict =>
      refine .inr ⟨fun f has => ?_, verdict, rfl, names_of_validate answer⟩
      obtain ⟨e, stops⟩ := fatal.mpr ⟨f, has⟩
      exact absurd (answer.symm.trans stops) (by simp)
  · rw [validate_eq]
    exact validate_of_reordered order
  · rw [validate_eq, validate_eq]
    exact validate_of_reordered order

/-! ### Badges -/

/-- The schema of badges: a name that must be there, and a code of at most two characters, which
stops the validation if it has more than three. -/
def badge : Schema where
  name := "badge"
  collection := "badge"
  fields := [
    ⟨"name", .string, some "name", some "name", false, "", [.test .nonzero], none⟩,
    ⟨"code", .string, some "code", some "code", false, "",
      [.test (.maxLength 2), .panic [.test (.maxLength 3)]], none⟩]
  primaryKey := 0
  autoKey := false
  created := none
  updated := none
  softDelete := none
  operations := []

/-- A badge without a name. -/
def nameless (code : String) : Record := ⟨badge, [.string "", .string code], rfl⟩

theorem validate_complete_nameless :
    (nameless "ab").validate = .ok ⟨[("name", "name did not pass validation.")]⟩ ∧
      (nameless "1234").validate = .error ⟨"code", "maxlen"⟩ ∧
        Agree (nameless "ab").validate (Registrar.validate (nameless "ab").entries.reverse) := by
  have order : Reordered (nameless "ab").entries (nameless "ab").entries.reverse :=
    ⟨_, List.forall₂_same.mpr fun c _ => ⟨rfl, rfl, .refl _⟩, (List.reverse_perm _).symm⟩
  exact ⟨by cbv, by cbv, (validate_complete _).2.2.1 _ order⟩

end Record

end Registrar
