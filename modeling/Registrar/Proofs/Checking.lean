import Registrar.Proofs.Valid

/-!
# What rules ask of a value

A rule without `panic` in it holds of a value or does not, whatever the order things are looked at:
a test as it says, and `each` of a sequence every item of which has all of the inner rules
(`Rule.Holds`). The check finds out which, and is never fatal. So the order of the rules within an
`each`, and that of the items of a sequence, are of no account. Around such rules, `panic` names the
first of them that does not hold.

* `Rule.check_of_calm`: a rule without `panic` passes iff it holds, and else fails by its own name.
* `Rule.check_of_reordered`: so it does in any order of inner rules and of items.
* `Rule.plain_check`: no check names `panic`, however rules are nested.
* **`Rule.check_settles`**: all of it, with rules by themselves, within `each` and within `panic`.
-/

namespace Registrar

/-! ## Rules that hold -/

namespace Rule

mutual

/-- There is no `panic` in a rule, at any depth. -/
def Calm : Rule → Prop
  | .test _ => True
  | .each rules => CalmAll rules
  | .panic _ => False

/-- There is no `panic` in any of some rules. -/
def CalmAll : List Rule → Prop
  | [] => True
  | r :: rest => Calm r ∧ CalmAll rest

end

mutual

/-- What a rule asks of a value. -/
def Holds : Rule → Value → Prop
  | .test t, v => t.holds v = true
  | .each rules, v => ∃ items, v = .seq items ∧ ∀ item ∈ items, HoldsAll rules item
  | .panic rules, v => HoldsAll rules v

/-- What rules ask of a value. -/
def HoldsAll : List Rule → Value → Prop
  | [], _ => True
  | r :: rest, v => Holds r v ∧ HoldsAll rest v

end

variable {r r' : Rule} {rules rules' : List Rule} {v v' : Value}

theorem calmAll_iff : ∀ {rules : List Rule}, CalmAll rules ↔ ∀ r ∈ rules, r.Calm
  | [] => by simp [CalmAll]
  | r :: rest => by rw [CalmAll, List.forall_mem_cons, calmAll_iff]

theorem calm_each : (each rules).Calm ↔ ∀ r ∈ rules, r.Calm := by rw [Calm, calmAll_iff]

theorem holdsAll_iff : ∀ {rules : List Rule}, HoldsAll rules v ↔ ∀ r ∈ rules, r.Holds v
  | [] => by simp [HoldsAll]
  | r :: rest => by rw [HoldsAll, List.forall_mem_cons, holdsAll_iff]

theorem holds_each : (each rules).Holds v ↔
    ∃ items, v = .seq items ∧ ∀ item ∈ items, ∀ r ∈ rules, r.Holds item := by
  simp only [Holds, holdsAll_iff]

/-! ## The check of a rule -/

/-- What is run over a list up to the first that does not pass: either all pass, or that one is the
answer. -/
theorem stops_cases {α : Type} {f : α → Outcome} {g : List α → Outcome} (nil : g [] = .pass)
    (cons : ∀ a rest, g (a :: rest) = match f a with | .pass => g rest | o => o) (l : List α) :
    (g l = .pass ∧ ∀ a ∈ l, f a = .pass) ∨
      ∃ before a after, l = before ++ a :: after ∧ (∀ b ∈ before, f b = .pass) ∧
        f a ≠ .pass ∧ g l = f a := by
  induction l with
  | nil => exact .inl ⟨nil, fun a ha => absurd ha List.not_mem_nil⟩
  | cons a rest ih =>
    rw [cons]
    by_cases ha : f a = .pass
    · rw [ha]
      rcases ih with ⟨passes, all⟩ | ⟨before, b, after, rfl, all, fails, stops⟩
      · exact .inl ⟨passes, List.forall_mem_cons.mpr ⟨ha, all⟩⟩
      · exact .inr ⟨a :: before, b, after, rfl, List.forall_mem_cons.mpr ⟨ha, all⟩, fails, stops⟩
    · refine .inr ⟨[], a, rest, rfl, fun b hb => absurd hb List.not_mem_nil, ha, ?_⟩
      split
      · rename_i passes
        exact absurd passes ha
      · rfl

theorem checkAll_cases (rules : List Rule) (v : Value) :
    (checkAll rules v = .pass ∧ ∀ r ∈ rules, r.check v = .pass) ∨
      ∃ before r after, rules = before ++ r :: after ∧ (∀ s ∈ before, s.check v = .pass) ∧
        r.check v ≠ .pass ∧ checkAll rules v = r.check v :=
  stops_cases (f := (check · v)) (g := (checkAll · v)) rfl (fun _ _ => rfl) rules

theorem first_cases (f : Value → Outcome) (items : List Value) :
    (Outcome.first f items = .pass ∧ ∀ item ∈ items, f item = .pass) ∨
      ∃ item ∈ items, f item ≠ .pass ∧ Outcome.first f items = f item := by
  rcases stops_cases (f := f) (g := Outcome.first f) rfl (fun _ _ => rfl) items with
    passes | ⟨before, item, after, rfl, -, fails, stops⟩
  · exact .inl passes
  · exact .inr ⟨item, List.mem_append_right _ List.mem_cons_self, fails, stops⟩

theorem checkAll_eq_pass_iff : checkAll rules v = .pass ↔ ∀ r ∈ rules, r.check v = .pass := by
  rcases checkAll_cases rules v with ⟨passes, all⟩ | ⟨before, r, after, rfl, -, fails, stops⟩
  · exact ⟨fun _ => all, fun _ => passes⟩
  · rw [stops]
    refine ⟨fun passes => absurd passes fails, fun all => all r ?_⟩
    exact List.mem_append_right _ List.mem_cons_self

mutual

/-- **A calm rule passes as it holds**, and fails by its own name where it does not. -/
theorem check_of_calm : ∀ {r : Rule}, r.Calm → ∀ v : Value,
    (r.Holds v ∧ r.check v = .pass) ∨ (¬ r.Holds v ∧ r.check v = .fail r.name)
  | .test t, _, v => by
    rw [Holds, check]
    cases t.holds v <;> simp [name]
  | .each rules, calm, v => by
    rw [Calm] at calm
    rw [Holds]
    cases v with
    | seq items =>
      rw [check]
      rcases first_cases (checkAll rules) items with ⟨passes, all⟩ | ⟨item, mem, fails, stops⟩
      · rw [passes]
        refine .inl ⟨⟨items, rfl, fun item mem => ?_⟩, rfl⟩
        rcases checkAll_of_calm calm item with ⟨holds, -⟩ | ⟨-, name, fails⟩
        · exact holds
        · exact absurd ((all item mem).symm.trans fails) (by simp)
      · rw [stops]
        rcases checkAll_of_calm calm item with ⟨-, passes⟩ | ⟨not, name, fails⟩
        · exact absurd passes (by assumption)
        · rw [fails]
          refine .inr ⟨?_, rfl⟩
          rintro ⟨_, same, all⟩
          obtain rfl := Value.seq.inj same
          exact not (all item mem)
    | _ => exact .inr ⟨by simp, rfl⟩
  | .panic rules, calm, v => (calm : False).elim

/-- Calm rules pass as they hold. -/
theorem checkAll_of_calm : ∀ {rules : List Rule}, CalmAll rules → ∀ v : Value,
    (HoldsAll rules v ∧ checkAll rules v = .pass) ∨
      (¬ HoldsAll rules v ∧ ∃ name, checkAll rules v = .fail name)
  | [], _, _ => .inl ⟨trivial, rfl⟩
  | r :: rest, calm, v => by
    rw [CalmAll] at calm
    rw [HoldsAll, checkAll]
    rcases check_of_calm calm.1 v with ⟨holds, passes⟩ | ⟨not, fails⟩
    · rw [passes]
      rcases checkAll_of_calm calm.2 v with ⟨rests, passes⟩ | ⟨not, name, fails⟩
      · exact .inl ⟨⟨holds, rests⟩, passes⟩
      · exact .inr ⟨fun h => not h.2, name, fails⟩
    · rw [fails]
      exact .inr ⟨fun h => not h.1, _, rfl⟩

end

theorem check_eq_pass_iff (calm : r.Calm) : r.check v = .pass ↔ r.Holds v := by
  rcases check_of_calm calm v with ⟨holds, passes⟩ | ⟨not, fails⟩
  · exact ⟨fun _ => holds, fun _ => passes⟩
  · rw [fails]
    exact ⟨fun h => absurd h (by simp), fun h => absurd h not⟩

/-! ## The rule that is named -/

/-- The answers that do not name `panic`. -/
def Plain (o : Outcome) : Prop := o ≠ .fail "panic" ∧ o ≠ .fatal "panic"

theorem plain_pass : Plain .pass := by simp [Plain]

theorem plain_first {f : Value → Outcome} (hf : ∀ v, Plain (f v)) (items : List Value) :
    Plain (Outcome.first f items) := by
  rcases first_cases f items with ⟨passes, -⟩ | ⟨item, -, -, stops⟩
  · rw [passes]
    exact plain_pass
  · rw [stops]
    exact hf item

mutual

/-- **No check names `panic`**, however rules are nested. -/
theorem plain_check : ∀ (r : Rule) (v : Value), Plain (r.check v)
  | .test t, v => by
    rw [check]
    cases t <;> split <;> simp [Plain, Test.name]
  | .each rules, v => by
    cases v with
    | seq items =>
      rw [check]
      have plain := plain_first (plain_checkAll rules) items
      cases first : Outcome.first (checkAll rules) items with
      | pass => exact plain_pass
      | fail name => simp [Outcome.within, Plain]
      | fatal name =>
        rw [first] at plain
        exact plain
    | _ => simp [check, Plain]
  | .panic rules, v => by
    rw [check]
    have plain := plain_checkAll rules v
    cases stops : checkAll rules v with
    | pass => exact plain_pass
    | fail name =>
      rw [stops] at plain
      refine ⟨by simp [Outcome.escalate], fun same => plain.1 ?_⟩
      rw [Outcome.fatal.inj same]
    | fatal name =>
      rw [stops] at plain
      exact plain

/-- No check of rules names `panic`. -/
theorem plain_checkAll : ∀ (rules : List Rule) (v : Value), Plain (checkAll rules v)
  | [], _ => plain_pass
  | r :: rest, v => by
    rw [checkAll]
    split
    · exact plain_checkAll rest v
    · exact plain_check r v

end

end Rule

/-! ## The order of rules and of items -/

/-- The same rule, but for the order of the rules within an `each`, at any depth. -/
inductive Rule.Reordered : Rule → Rule → Prop where
  | refl (r : Rule) : Reordered r r
  | each {rules rules' : List Rule} (h : rules.Perm rules') : Reordered (.each rules) (.each rules')
  | within {r r' : Rule} (before after : List Rule) (h : Reordered r r') :
    Reordered (.each (before ++ r :: after)) (.each (before ++ r' :: after))
  | trans {r s t : Rule} (h : Reordered r s) (k : Reordered s t) : Reordered r t

/-- The same value, but for the order of the items of a sequence, at any depth of sequences. -/
inductive Value.Reordered : Value → Value → Prop where
  | refl (v : Value) : Reordered v v
  | seq {items items' : List Value} (h : items.Perm items') : Reordered (.seq items) (.seq items')
  | within {v v' : Value} (before after : List Value) (h : Reordered v v') :
    Reordered (.seq (before ++ v :: after)) (.seq (before ++ v' :: after))
  | trans {u v w : Value} (h : Reordered u v) (k : Reordered v w) : Reordered u w

namespace Rule

variable {r r' : Rule} {rules rules' : List Rule} {v v' : Value}

theorem Reordered.calm (h : Reordered r r') : r.Calm ↔ r'.Calm := by
  induction h with
  | refl => rfl
  | each perm => simp only [calm_each, perm.mem_iff]
  | within before after _ ih => simp only [calm_each, List.forall_mem_append,
      List.forall_mem_cons, ih]
  | trans _ _ ih ih' => exact ih.trans ih'

theorem Reordered.name_eq (h : Reordered r r') : r.name = r'.name := by
  induction h with
  | refl | each | within => rfl
  | trans _ _ ih ih' => exact ih.trans ih'

/-- A reordered rule asks for the same. -/
theorem Reordered.holds (h : Reordered r r') (v : Value) : r.Holds v ↔ r'.Holds v := by
  induction h generalizing v with
  | refl => rfl
  | each perm => simp only [holds_each, perm.mem_iff]
  | within before after _ ih => simp only [holds_each, List.forall_mem_append,
      List.forall_mem_cons, ih]
  | trans _ _ ih ih' => exact (ih v).trans (ih' v)

/-- A test looks at no more of a sequence than how long it is. -/
theorem test_holds_seq (t : Test) {items items' : List Value} (h : items.length = items'.length) :
    t.holds (.seq items) = t.holds (.seq items') := by
  have empty : items.isEmpty = items'.isEmpty := by
    cases items <;> cases items' <;> simp at h ⊢
  cases t <;> simp [Test.holds, Test.finds, Test.number, Test.measured, Test.isMember,
    Value.text?, Value.toFloat?, Value.length?, Value.isZero, h, empty]

section Items

variable {items items' : List Value}

mutual

/-- Two sequences are asked for the same if they are as long, and their items are. -/
theorem holds_seq_congr (length : items.length = items'.length)
    (same : ∀ rules, (∀ item ∈ items, HoldsAll rules item) ↔ ∀ item ∈ items', HoldsAll rules item) :
    ∀ r : Rule, r.Holds (.seq items) ↔ r.Holds (.seq items')
  | .test t => by rw [Holds, Holds, test_holds_seq t length]
  | .each rules => by simpa [Holds] using same rules
  | .panic rules => by
    rw [Holds, Holds]
    exact holdsAll_seq_congr length same rules

/-- The same of a list of rules. -/
theorem holdsAll_seq_congr (length : items.length = items'.length)
    (same : ∀ rules, (∀ item ∈ items, HoldsAll rules item) ↔ ∀ item ∈ items', HoldsAll rules item) :
    ∀ rules : List Rule, HoldsAll rules (.seq items) ↔ HoldsAll rules (.seq items')
  | [] => Iff.rfl
  | r :: rest => by
    rw [HoldsAll, HoldsAll]
    exact and_congr (holds_seq_congr length same r) (holdsAll_seq_congr length same rest)

end

end Items

/-- A reordered value is asked for the same. -/
theorem holds_of_reordered (h : v.Reordered v') (r : Rule) : r.Holds v ↔ r.Holds v' := by
  induction h generalizing r with
  | refl => rfl
  | seq perm => exact holds_seq_congr perm.length_eq (fun rules => by simp only [perm.mem_iff]) r
  | within before after _ ih =>
    refine holds_seq_congr (by simp) (fun rules => ?_) r
    simp only [List.forall_mem_append, List.forall_mem_cons, holdsAll_iff, ih]
  | trans _ _ ih ih' => exact (ih r).trans (ih' r)

/-- **Order is of no account** to the check of a calm rule. -/
theorem check_of_reordered (calm : r.Calm) (h : r.Reordered r') (k : v.Reordered v') :
    r'.check v' = r.check v := by
  have same : r.Holds v ↔ r'.Holds v' := (holds_of_reordered k r).trans (h.holds v')
  rcases check_of_calm calm v with ⟨holds, passes⟩ | ⟨not, fails⟩ <;>
    rcases check_of_calm (h.calm.mp calm) v' with ⟨holds', passes'⟩ | ⟨not', fails'⟩
  · rw [passes, passes']
  · exact absurd (same.mp holds) not'
  · exact absurd (same.mpr holds') not
  · rw [fails, fails', h.name_eq]

/-- What is checked of a list of rules depends on what is checked of each of them. -/
theorem checkAll_congr (h : List.Forall₂ (fun r r' => r'.check v' = r.check v) rules rules') :
    checkAll rules' v' = checkAll rules v := by
  induction h with
  | nil => rfl
  | cons head _ ih => rw [checkAll, checkAll, head, ih]

theorem failsAny_congr (h : List.Forall₂ (fun r r' => r'.check v' = r.check v) rules rules') :
    Candidate.failsAny v' rules' = Candidate.failsAny v rules := by
  induction h with
  | nil => rfl
  | cons head _ ih => rw [Candidate.failsAny, Candidate.failsAny, head, ih]

/-! ## What comes of it -/

/-- Where no rule is fatal, it is found out whether any fails. -/
theorem failsAny_eq_ok (never : ∀ r ∈ rules, ∀ name, r.check v ≠ .fatal name) :
    ∃ failed, Candidate.failsAny v rules = .ok failed := by
  induction rules with
  | nil => exact ⟨false, rfl⟩
  | cons r rest ih =>
    obtain ⟨head, tail⟩ := List.forall_mem_cons.mp never
    obtain ⟨failed, rests⟩ := ih tail
    rw [Candidate.failsAny, rests]
    cases stops : r.check v with
    | pass => exact ⟨failed, rfl⟩
    | fail name => exact ⟨true, rfl⟩
    | fatal name => exact absurd stops (head name)

theorem check_ne_fatal (calm : r.Calm) (name : String) : r.check v ≠ .fatal name := by
  rcases check_of_calm calm v with ⟨-, passes⟩ | ⟨-, fails⟩
  · simp [passes]
  · simp [fails]

theorem forall_check_eq_pass (calm : ∀ r ∈ rules, r.Calm) :
    (∀ r ∈ rules, r.check v = .pass) ↔ ∀ r ∈ rules, r.Holds v :=
  forall₂_congr fun r hr => check_eq_pass_iff (calm r hr)

/-- Calm rules stop at the first that does not hold, and `panic` names it. -/
theorem check_panic_of_calm (calm : ∀ r ∈ rules, r.Calm) (v : Value) :
    ((∀ r ∈ rules, r.Holds v) ∧ (panic rules).check v = .pass) ∨
      ∃ before r after, rules = before ++ r :: after ∧ (∀ s ∈ before, s.Holds v) ∧ ¬ r.Holds v ∧
        (panic rules).check v = .fatal r.name := by
  rw [check]
  rcases checkAll_cases rules v with ⟨passes, all⟩ | ⟨before, r, after, rfl, all, fails, stops⟩
  · rw [passes]
    exact .inl ⟨(forall_check_eq_pass calm).mp all, rfl⟩
  · obtain ⟨earlier, later⟩ := List.forall_mem_append.mp calm
    rcases check_of_calm (later r List.mem_cons_self) v with ⟨-, passes⟩ | ⟨not, named⟩
    · exact absurd passes fails
    · rw [stops, named]
      exact .inr ⟨before, r, after, rfl, (forall_check_eq_pass earlier).mp all, not, rfl⟩

/-- What comes of checking rules of a value, where all is as the rules hold. -/
structure Settled (rules : List Rule) (v : Value) : Prop where
  /-- A rule passes where it holds, and fails by its own name where it does not. -/
  rule : ∀ r ∈ rules, (r.Holds v ∧ r.check v = .pass) ∨ (¬ r.Holds v ∧ r.check v = .fail r.name)
  /-- Checked up to the first that does not pass, the list passes iff every rule holds. -/
  passes : checkAll rules v = .pass ↔ ∀ r ∈ rules, r.Holds v
  calm : ∀ name, checkAll rules v ≠ .fatal name
  /-- Checked to the end, some rule fails iff not every rule holds. -/
  fails : ∃ failed, Candidate.failsAny v rules = .ok failed ∧
    (failed = false ↔ ∀ r ∈ rules, r.Holds v)
  /-- Within `each`, a value passes iff it is a sequence every item of which passes. -/
  items : (each rules).check v = .pass ↔
    ∃ items, v = .seq items ∧ ∀ item ∈ items, ∀ r ∈ rules, r.check item = .pass
  /-- Within `panic`, the value passes iff every rule holds; else the first that does not is
  named. -/
  panics : ((∀ r ∈ rules, r.Holds v) ∧ (panic rules).check v = .pass) ∨
    ∃ before r after, rules = before ++ r :: after ∧ (∀ s ∈ before, s.Holds v) ∧ ¬ r.Holds v ∧
      (panic rules).check v = .fatal r.name
  /-- The order of the rules within an `each`, and that of items, changes none of it. -/
  reordered : ∀ {rules' : List Rule} {v' : Value}, List.Forall₂ Reordered rules rules' →
    v.Reordered v' → checkAll rules' v' = checkAll rules v ∧
      Candidate.failsAny v' rules' = Candidate.failsAny v rules ∧
        (panic rules').check v' = (panic rules).check v

theorem settled_of_calm (calm : ∀ r ∈ rules, r.Calm) (v : Value) : Settled rules v where
  rule r hr := check_of_calm (calm r hr) v
  passes := checkAll_eq_pass_iff.trans (forall_check_eq_pass calm)
  calm name fatal := by
    rcases checkAll_of_calm (calmAll_iff.mpr calm) v with ⟨-, passes⟩ | ⟨-, other, fails⟩
    · exact absurd (passes.symm.trans fatal) (by simp)
    · exact absurd (fails.symm.trans fatal) (by simp)
  fails := by
    obtain ⟨failed, ok⟩ := failsAny_eq_ok fun r hr => check_ne_fatal (v := v) (calm r hr)
    refine ⟨failed, ok, ?_⟩
    rw [← forall_check_eq_pass calm, ← Candidate.failsAny_eq_ok_false, ok, Except.ok.injEq]
  items := by
    rw [check_eq_pass_iff (calm_each.mpr calm), holds_each]
    simp only [forall_check_eq_pass calm]
  panics := check_panic_of_calm calm v
  reordered {rules' v'} order order' := by
    have same : List.Forall₂ (fun r r' => r'.check v' = r.check v) rules rules' :=
      ((List.forall₂_and_left _ _).mpr ⟨calm, order⟩).imp fun r r' h =>
        check_of_reordered h.1 h.2 order'
    rw [check, check, checkAll_congr same]
    exact ⟨rfl, failsAny_congr same, rfl⟩

/-- **What comes of checking rules.** Rules without `panic` are never fatal, and all is as they
hold, whatever the order within `each` and of items; `panic` around them names the first that does
not hold. Whatever rules are nested in one another, a `panic` never merely fails, and no fatal
answer names `panic`. -/
theorem check_settles :
    (∀ rules : List Rule, (∀ r ∈ rules, r.Calm) → ∀ v : Value, Settled rules v) ∧
      (∀ (rules : List Rule) (v : Value) (name : String), (panic rules).check v ≠ .fail name) ∧
        ∀ (r : Rule) (v : Value) (name : String), r.check v = .fatal name → name ≠ "panic" := by
  refine ⟨fun rules calm v => settled_of_calm calm v, check_panic_ne_fail, ?_⟩
  rintro r v name fatal rfl
  exact (plain_check r v).2 fatal

/-! ### Lists of lists of texts -/

/-- The rules of a list of at least one list, each with at least one item and no empty text. -/
def nested : List Rule :=
  [.test (.minLength 1), .each [.test (.minLength 1), .each [.test .nonzero]]]

theorem check_settles_nested :
    (∀ r ∈ nested, r.Calm) ∧
      Settled nested (.seq [.seq [.string "a", .string ""], .seq [.string "b"]]) ∧
        (panic nested).check (.seq [.seq [.string "a", .string ""], .seq [.string "b"]]) =
          .fatal "each" := by
  have calm : ∀ r ∈ nested, r.Calm := by simp [nested, Calm, CalmAll]
  exact ⟨calm, check_settles.1 nested calm _, by cbv⟩

end Rule

end Registrar
