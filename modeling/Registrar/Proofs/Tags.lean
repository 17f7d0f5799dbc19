import Registrar.Proofs.Tokens

/-!
# Tags as trees

A tag is a way to write a list of clauses: a name with a text, or `each` or `panic` with clauses of
its own. What the clauses stand for is said of the tree alone (`Clause.reading`): every known name
stands for its rule, unknown ones for nothing, and the faults of the arguments come in the order
they are met in from left to right.

* `Clause.Written`, `Clause.WrittenAll`: the ways to write a clause and a list of them, with blanks
  wherever they may stand.
* `Clause.parseTag_written`: every way to write a list of clauses is read as the list.
-/

namespace Registrar.Rule

open Text (Blanks Padded trimChars)

/-! ## Names -/

/-- A name of a test. -/
inductive Keyword where
  | nonzero
  | email
  | hexColor
  | url
  | ip
  | alpha
  | alphaNum
  | num
  | lat
  | lon
  | gt
  | gte
  | lt
  | lte
  | len
  | minLen
  | maxLen
  | isIn
  | notIn
  | hasKey
  | matching
  deriving DecidableEq, Repr

namespace Keyword

/-- Every keyword. -/
def all : List Keyword :=
  [.nonzero, .email, .hexColor, .url, .ip, .alpha, .alphaNum, .num, .lat, .lon, .gt, .gte, .lt,
    .lte, .len, .minLen, .maxLen, .isIn, .notIn, .hasKey, .matching]

/-- The name as it is written. -/
def name : Keyword → String
  | .nonzero => "nonzero"
  | .email => "email"
  | .hexColor => "hexcolor"
  | .url => "url"
  | .ip => "ip"
  | .alpha => "alpha"
  | .alphaNum => "alphanum"
  | .num => "num"
  | .lat => "lat"
  | .lon => "lon"
  | .gt => "gt"
  | .gte => "gte"
  | .lt => "lt"
  | .lte => "lte"
  | .len => "len"
  | .minLen => "minlen"
  | .maxLen => "maxlen"
  | .isIn => "in"
  | .notIn => "notin"
  | .hasKey => "haskey"
  | .matching => "matches"

/-- The test that a name stands for with an argument: ten names take none, four a number, three a
length, two a list of texts, one a text and one a pattern. -/
def test (arg : List Char) : Keyword → Except Fault Test
  | .nonzero => .ok .nonzero
  | .email => .ok .email
  | .hexColor => .ok .hexColor
  | .url => .ok .url
  | .ip => .ok .ip
  | .alpha => .ok .alpha
  | .alphaNum => .ok .alphaNum
  | .num => .ok .num
  | .lat => .ok .lat
  | .lon => .ok .lon
  | .gt => (number "gt" arg).map .above
  | .gte => (number "gte" arg).map .atLeast
  | .lt => (number "lt" arg).map .below
  | .lte => (number "lte" arg).map .atMost
  | .len => (length "len" arg).map .length
  | .minLen => (length "minlen" arg).map .minLength
  | .maxLen => (length "maxlen" arg).map .maxLength
  | .isIn => .ok (.oneOf (items arg))
  | .notIn => .ok (.noneOf (items arg))
  | .hasKey => (required "haskey" arg).map fun cs => .hasKey (String.ofList cs)
  | .matching => (shape "matches" arg).map .shape

theorem test?_name (k : Keyword) (arg : List Char) : test? k.name arg = (k.test arg).map some := by
  have compose : ∀ {α : Type} (x : Except Fault α) (f : α → Test),
      x.map (some ∘ f) = (x.map f).map some := by
    intro α x f
    cases x <;> rfl
  cases k <;> first | rfl | exact compose _ _

theorem unmarked_name (k : Keyword) : Unmarked k.name.toList := by
  cases k <;> simp [name, Unmarked, IsMark]

end Keyword

/-- A name of a rule that takes rules. -/
inductive Combinator where
  | each
  | panic
  deriving DecidableEq, Repr

namespace Combinator

/-- The name as it is written. -/
def name : Combinator → String
  | .each => "each"
  | .panic => "panic"

/-- The rule that a name stands for with some rules. -/
def rule (rules : List Rule) : Combinator → Rule
  | .each => .each rules
  | .panic => .panic rules

end Combinator

/-- A name that stands for nothing. It has no parentheses and no bars. -/
structure Unknown where
  name : List Char
  trimmed : trimChars name = name
  unmarked : Unmarked name
  test : ∀ k : Keyword, String.ofList name ≠ k.name
  combinator : ∀ n : Combinator, String.ofList name ≠ n.name

theorem Unknown.test?_eq (u : Unknown) (arg : List Char) :
    test? (String.ofList u.name) arg = .ok none := by
  unfold test?
  split
  case h_22 => rfl
  all_goals
    rename_i same
    have apart : ∀ k ∈ Keyword.all, String.ofList u.name ≠ k.name := fun k _ => u.test k
    rw [same] at apart
    exact absurd apart (by decide)

/-! ## Clauses -/

/-- Text whose parentheses are properly nested. -/
inductive Nested : List Char → Prop
  | nil : Nested []
  | char {c : Char} {cs : List Char} (hc : c ≠ '(' ∧ c ≠ ')') (h : Nested cs) : Nested (c :: cs)
  | group {inner cs : List Char} (hi : Nested inner) (h : Nested cs) :
    Nested ('(' :: (inner ++ ')' :: cs))

/-- A text without parentheses is nested properly. -/
theorem Nested.of_free : ∀ {cs : List Char}, (∀ c ∈ cs, c ≠ '(' ∧ c ≠ ')') → Nested cs
  | [], _ => .nil
  | _ :: _, h => .char (List.forall_mem_cons.mp h).1 (.of_free (List.forall_mem_cons.mp h).2)

/-- A text that can stand in parentheses: trimmed, and nested properly. It may be empty. -/
structure Argument where
  text : List Char
  trimmed : trimChars text = text
  nested : Nested text

/-- A name that is given a text. -/
inductive Leaf where
  | known (k : Keyword)
  | unknown (u : Unknown)

/-- What a tag lists. A name without an argument is one with an empty argument. -/
inductive Clause where
  | leaf (l : Leaf) (arg : Argument)
  | nest (n : Combinator) (clauses : List Clause)

namespace Leaf

/-- The name as it is written. -/
def name : Leaf → List Char
  | .known k => k.name.toList
  | .unknown u => u.name

/-- What is wrong with the argument of a name. -/
def faults (arg : Argument) : Leaf → List Fault
  | .known k =>
    match k.test arg.text with
    | .ok _ => []
    | .error fault => [fault]
  | .unknown _ => []

/-- The rule that a name stands for. -/
def rules (arg : Argument) : Leaf → List Rule
  | .known k =>
    match k.test arg.text with
    | .ok t => [.test t]
    | .error _ => []
  | .unknown _ => []

end Leaf

namespace Clause

mutual

/-- What is wrong with the arguments in a clause, from left to right. -/
def faults : Clause → List Fault
  | .leaf l arg => l.faults arg
  | .nest _ clauses => faultsAll clauses

/-- What is wrong with the arguments in some clauses, from left to right. -/
def faultsAll : List Clause → List Fault
  | [] => []
  | c :: rest => faults c ++ faultsAll rest

end

mutual

/-- The rule that a clause stands for, if it stands for one. -/
def rules : Clause → List Rule
  | .leaf l arg => l.rules arg
  | .nest n clauses => [n.rule (rulesAll clauses)]

/-- The rules that some clauses stand for. -/
def rulesAll : List Clause → List Rule
  | [] => []
  | c :: rest => rules c ++ rulesAll rest

end

/-- The first fault if there is one, and some rules if there is none. -/
def settle (faults : List Fault) (rules : List Rule) : Except Fault (List Rule) :=
  match faults with
  | [] => .ok rules
  | fault :: _ => .error fault

/-- **What clauses stand for**: their rules, or the first thing that is wrong with them. -/
def reading (clauses : List Clause) : Except Fault (List Rule) :=
  settle (faultsAll clauses) (rulesAll clauses)

theorem settle_append (fs gs : List Fault) (rs qs : List Rule) :
    settle (fs ++ gs) (rs ++ qs) = do
      let left ← settle fs rs
      let right ← settle gs qs
      return left ++ right := by
  cases fs with
  | cons fault fs => rfl
  | nil => cases gs <;> rfl

/-! ## Writing -/

mutual

/-- The ways to write a clause. Blanks may stand before and after it, its name and its argument, and
an empty argument may be left out with its parentheses. -/
inductive Written : Clause → List Char → Prop
  | bareLeaf {l : Leaf} {a : Argument} {cs : List Char} (empty : a.text = [])
    (h : Padded l.name cs) : Written (.leaf l a) cs
  | leaf {l : Leaf} {a : Argument} {name inner cs : List Char} (hname : Padded l.name name)
    (hinner : Padded a.text inner) (h : Padded (name ++ '(' :: (inner ++ [')'])) cs) :
    Written (.leaf l a) cs
  | bareNest {n : Combinator} {cs : List Char} (h : Padded n.name.toList cs) :
    Written (.nest n []) cs
  | nest {n : Combinator} {clauses : List Clause} {name inner cs : List Char}
    (hname : Padded n.name.toList name) (hinner : WrittenAll clauses inner)
    (h : Padded (name ++ '(' :: (inner ++ [')'])) cs) : Written (.nest n clauses) cs

/-- The ways to write clauses: one after the other, with bars between them. -/
inductive WrittenAll : List Clause → List Char → Prop
  | nil {cs : List Char} (h : Blanks cs) : WrittenAll [] cs
  | last {c : Clause} {cs : List Char} (h : Written c cs) : WrittenAll [c] cs
  | cons {c d : Clause} {rest : List Clause} {cs ds : List Char} (h : Written c cs)
    (hrest : WrittenAll (d :: rest) ds) : WrittenAll (c :: d :: rest) (cs ++ '|' :: ds)

end

end Clause

/-! ### The plain way

Every list of clauses can be written: without blanks, and with all parentheses. -/

namespace Clause

mutual

/-- A clause as it is written without blanks. -/
def write : Clause → List Char
  | .leaf l arg => l.name ++ '(' :: (arg.text ++ [')'])
  | .nest n clauses => n.name.toList ++ '(' :: (writeAll clauses ++ [')'])

/-- Clauses as they are written without blanks. -/
def writeAll : List Clause → List Char
  | [] => []
  | c :: rest =>
    match rest with
    | [] => write c
    | _ :: _ => write c ++ '|' :: writeAll rest

end

theorem padded_self (cs : List Char) : Padded cs cs :=
  ⟨[], [], fun _ h => absurd h List.not_mem_nil, fun _ h => absurd h List.not_mem_nil,
    (List.append_nil cs).symm⟩

mutual

theorem written_write : ∀ c : Clause, c.Written c.write
  | .leaf l arg => by
    rw [write]
    exact .leaf (padded_self _) (padded_self _) (padded_self _)
  | .nest n clauses => by
    rw [write]
    exact .nest (padded_self _) (writtenAll_writeAll clauses) (padded_self _)

/-- Every list of clauses can be written. -/
theorem writtenAll_writeAll : ∀ clauses : List Clause, WrittenAll clauses (writeAll clauses)
  | [] => by
    rw [writeAll]
    exact .nil fun _ h => absurd h List.not_mem_nil
  | [c] => by
    rw [writeAll]
    exact .last (written_write c)
  | c :: d :: rest => by
    rw [writeAll]
    exact .cons (written_write c) (writtenAll_writeAll (d :: rest))

end

end Clause

/-! ## What is written is not cut -/

theorem Unmarked.padded {core cs : List Char} (hcore : Unmarked core) (h : Padded core cs) :
    Unmarked cs := by
  obtain ⟨a, b, ha, hb, rfl⟩ := h
  intro c hc
  rcases List.mem_append.mp hc with hc | hc
  · exact unmarked_of_blanks ha c hc
  · rcases List.mem_append.mp hc with hc | hc
    · exact hcore c hc
    · exact unmarked_of_blanks hb c hc

theorem Leaf.unmarked_name : ∀ l : Leaf, Unmarked l.name
  | .known k => k.unmarked_name
  | .unknown u => u.unmarked

theorem Combinator.unmarked_name (n : Combinator) : Unmarked n.name.toList := by
  cases n <;> simp [name, Unmarked, IsMark]

/-- Inside parentheses nothing that is nested properly is cut. -/
theorem Nested.uncut {cs : List Char} (h : Nested cs) : ∀ d : Nat, Uncut (d + 1) (d + 1) cs := by
  induction h with
  | nil => exact fun d => .nil _
  | @char c cs hc _ ih =>
    intro d
    have same : depthAfter (d + 1) c = d + 1 := by
      unfold depthAfter
      rw [if_neg hc.1, if_neg hc.2]
    refine .cons (by simp) ?_
    rw [same]
    exact ih d
  | @group inner cs _ _ ihi ih =>
    intro d
    have closed := (Uncut.parenthesized (ihi (d + 1))).append (ih d)
    rw [List.cons_append, List.append_assoc, List.singleton_append] at closed
    exact closed

namespace Clause

theorem uncut_applied {name inner cs : List Char} {d : Nat} (hname : Unmarked name)
    (hinner : Uncut (d + 1) (d + 1) inner) (h : Padded (name ++ '(' :: (inner ++ [')'])) cs) :
    Uncut d d cs :=
  .padded ((Uncut.of_unmarked hname).append hinner.parenthesized) h

mutual

/-- A written clause is not cut at any depth. -/
theorem Written.uncut {c : Clause} {cs : List Char} : c.Written cs → ∀ d : Nat, Uncut d d cs
  | .bareLeaf _ h, _ => .padded (.of_unmarked (Leaf.unmarked_name _)) h
  | .leaf (a := a) hname hinner h, d =>
    uncut_applied ((Leaf.unmarked_name _).padded hname) (.padded (a.nested.uncut d) hinner) h
  | .bareNest h, _ => .padded (.of_unmarked (Combinator.unmarked_name _)) h
  | .nest hname hinner h, d =>
    uncut_applied ((Combinator.unmarked_name _).padded hname) (hinner.uncut d) h

/-- Written clauses are not cut inside parentheses. -/
theorem WrittenAll.uncut {clauses : List Clause} {cs : List Char} :
    WrittenAll clauses cs → ∀ d : Nat, Uncut (d + 1) (d + 1) cs
  | .nil h, _ => .of_blanks h
  | .last h, d => h.uncut (d + 1)
  | .cons h hrest, d => .bar (h.uncut (d + 1)) (hrest.uncut d)

end

end Clause

/-! ## What is written is read -/

section Tokens

variable {nested : List Char → Except Fault (List Rule)} {token : List Char}

theorem ofToken_known {k : Keyword} (hname : tokenName token = k.name) :
    ofToken nested token = (k.test (tokenArg token)).map fun t => some (.test t) := by
  have plain : ofToken nested token =
      (test? k.name (tokenArg token)).map fun t => t.map Rule.test := by
    unfold ofToken
    rw [hname]
    cases k <;> rfl
  rw [plain, k.test?_name]
  cases k.test (tokenArg token) <;> rfl

theorem ofToken_unknown {u : Unknown} (hname : tokenName token = String.ofList u.name) :
    ofToken nested token = .ok none := by
  unfold ofToken
  simp only
  split
  · rename_i each
    exact absurd (hname.symm.trans each) (u.combinator .each)
  · rename_i panic
    exact absurd (hname.symm.trans panic) (u.combinator .panic)
  · rw [hname, u.test?_eq]
    rfl

theorem ofToken_nest {n : Combinator} (hname : tokenName token = n.name) :
    ofToken nested token = (nested (tokenArg token)).map fun rules => some (n.rule rules) := by
  unfold ofToken
  rw [hname]
  cases n <;> rfl

/-- A token with the name and the argument of a leaf stands for what the leaf stands for. -/
theorem ofToken_leaf {l : Leaf} {arg : Argument} (hname : tokenName token = String.ofList l.name)
    (harg : tokenArg token = arg.text) :
    (ofToken nested token).map Option.toList = Clause.settle (l.faults arg) (l.rules arg) := by
  cases l with
  | known k =>
    have hname : tokenName token = k.name := hname.trans String.ofList_toList
    rw [ofToken_known hname, harg]
    simp only [Leaf.faults, Leaf.rules]
    cases k.test arg.text <;> rfl
  | unknown u =>
    rw [ofToken_unknown hname]
    rfl

end Tokens

theorem Leaf.trimmed_name : ∀ l : Leaf, trimChars l.name = l.name
  | .known k => by cases k <;> decide
  | .unknown u => u.trimmed

theorem Combinator.trimmed_name (n : Combinator) : trimChars n.name.toList = n.name.toList := by
  cases n <;> decide

namespace Clause

variable {cs core name inner : List Char}

/-- The parts of a name with an argument, written with blanks. -/
theorem parts_of_applied (hcore : Unmarked core) (trimmed : trimChars core = core)
    (hname : Padded core name) (h : Padded (name ++ '(' :: (inner ++ [')'])) cs) :
    tokenName cs = String.ofList core ∧ tokenArg cs = trimChars inner := by
  have unmarked := hcore.padded hname
  rw [tokenName_padded h, tokenName_applied unmarked, tokenArg_padded h,
    tokenArg_applied unmarked, hname.trimChars_eq, trimmed]
  exact ⟨rfl, rfl⟩

/-- The parts of a name alone, written with blanks. -/
theorem parts_of_bare (hcore : Unmarked core) (trimmed : trimChars core = core)
    (h : Padded core cs) : tokenName cs = String.ofList core ∧ tokenArg cs = [] := by
  rw [tokenName_padded h, tokenName_bare hcore, tokenArg_padded h, tokenArg_bare hcore, trimmed]
  exact ⟨rfl, rfl⟩

theorem parseChars_trimChars (cs : List Char) : parseChars (trimChars cs) = parseChars cs :=
  (parseChars_padded (Text.padded_trimChars cs)).symm

/-- A token with the name of a combinator, and an argument that is read as some clauses. -/
theorem ofToken_of_nest {n : Combinator} {clauses : List Clause} {token : List Char}
    (hname : tokenName token = String.ofList n.name.toList)
    (harg : parseChars (tokenArg token) = reading clauses) :
    (ofToken parseChars token).map Option.toList =
      settle (faults (.nest n clauses)) (rules (.nest n clauses)) := by
  rw [ofToken_nest (hname.trans String.ofList_toList), harg, reading, faults, rules]
  cases faultsAll clauses <;> rfl

theorem readAll_cons_eq {piece : List Char} {pieces : List (List Char)} {c : Clause}
    {clauses : List Clause}
    (hpiece : (ofToken parseChars piece).map Option.toList = settle c.faults c.rules)
    (hpieces : readAll pieces = reading clauses) :
    readAll (piece :: pieces) = reading (c :: clauses) := by
  rw [reading, faultsAll, rulesAll, settle_append, ← hpiece, readAll_cons, hpieces, reading]
  cases ofToken parseChars piece <;> rfl

mutual

/-- A written clause is read as the clause. -/
theorem Written.ofToken_eq {c : Clause} {cs : List Char} : c.Written cs →
    (ofToken parseChars cs).map Option.toList = settle c.faults c.rules
  | .bareLeaf (l := l) empty h => by
    obtain ⟨name, arg⟩ := parts_of_bare l.unmarked_name l.trimmed_name h
    exact ofToken_leaf name (arg.trans empty.symm)
  | .leaf (l := l) (a := a) hname hinner h => by
    obtain ⟨name, inner⟩ := parts_of_applied l.unmarked_name l.trimmed_name hname h
    exact ofToken_leaf name (inner.trans (hinner.trimChars_eq.trans a.trimmed))
  | .bareNest (n := n) h => by
    obtain ⟨name, arg⟩ := parts_of_bare n.unmarked_name n.trimmed_name h
    refine ofToken_of_nest name ?_
    rw [arg]
    exact WrittenAll.parseChars_eq (.nil fun _ hc => absurd hc List.not_mem_nil)
  | .nest (n := n) hname hinner h => by
    obtain ⟨name, arg⟩ := parts_of_applied n.unmarked_name n.trimmed_name hname h
    refine ofToken_of_nest name ?_
    rw [arg, parseChars_trimChars]
    exact hinner.parseChars_eq

/-- Written clauses are read as the clauses. -/
theorem WrittenAll.parseChars_eq {clauses : List Clause} {cs : List Char} :
    WrittenAll clauses cs → parseChars cs = reading clauses
  | .nil h => by
    rw [← parseChars_trimChars, Text.trimChars_blanks h, parseChars_eq_readAll]
    rfl
  | .last h => by
    rw [parseChars_eq_readAll, (h.uncut 0).splitBars_eq]
    exact readAll_cons_eq h.ofToken_eq rfl
  | .cons h hrest => by
    rw [parseChars_eq_readAll, (h.uncut 0).splitBars_bar]
    refine readAll_cons_eq h.ofToken_eq ?_
    rw [← parseChars_eq_readAll]
    exact hrest.parseChars_eq

end

/-- **Every way to write clauses is read as the clauses**: as their rules, in order and as deep as
they are nested, without what unknown names stand for; or as the first fault from left to right. -/
theorem parseTag_written {clauses : List Clause} {tag : String}
    (h : WrittenAll clauses tag.toList) : parseTag tag = reading clauses :=
  h.parseChars_eq

/-- Two rules for the items of a sequence, the second one fatal, behind a name that is not known. -/
def guarded : List Clause :=
  [.leaf (.unknown ⟨"made up".toList, by decide, by simp [Unmarked, IsMark],
      fun k => by cases k <;> decide, fun n => by cases n <;> decide⟩)
      ⟨"a|b".toList, by decide, .of_free (by simp)⟩,
    .nest .each [.leaf (.known .minLen) ⟨['1'], by decide, .of_free (by simp)⟩,
      .nest .panic [.leaf (.known .notIn) ⟨[], rfl, .nil⟩]]]

theorem parseTag_written_guarded :
    WrittenAll guarded "made up (a|b)| each( minlen(1 )|panic (notin ))".toList ∧
    parseTag "made up (a|b)| each( minlen(1 )|panic (notin ))" =
      .ok [.each [.test (.minLength 1), .panic [.test (.noneOf [""])]]] := by
  have blank : ∀ n : Nat, Blanks (List.replicate n ' ') := fun n c hc => by
    rw [(List.mem_replicate.mp hc).2]
    rfl
  have minLen : Written (.leaf (.known .minLen) ⟨['1'], by decide, .of_free (by simp)⟩)
      " minlen(1 )".toList :=
    .leaf (padded_self _) ⟨[], [' '], blank 0, blank 1, rfl⟩ ⟨[' '], [], blank 1, blank 0, rfl⟩
  have notIn : Written (.leaf (.known .notIn) ⟨[], rfl, .nil⟩) "notin ".toList :=
    .bareLeaf rfl ⟨[], [' '], blank 0, blank 1, rfl⟩
  have panic : Written (.nest .panic [.leaf (.known .notIn) ⟨[], rfl, .nil⟩])
      "panic (notin )".toList :=
    .nest ⟨[], [' '], blank 0, blank 1, rfl⟩ (.last notIn) (padded_self _)
  have written : WrittenAll guarded "made up (a|b)| each( minlen(1 )|panic (notin ))".toList := by
    show WrittenAll guarded ("made up (a|b)".toList ++
      '|' :: " each( minlen(1 )|panic (notin ))".toList)
    refine .cons ?_ (.last ?_)
    · exact .leaf ⟨[], [' '], blank 0, blank 1, rfl⟩ (padded_self _) (padded_self _)
    · exact .nest (padded_self _) (.cons minLen (.last panic))
        ⟨[' '], [], blank 1, blank 0, rfl⟩
  refine ⟨written, (parseTag_written written).trans ?_⟩
  rfl

end Clause

end Registrar.Rule
