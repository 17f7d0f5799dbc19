import Registrar.Proofs.Tags

/-!
# Parentheses that are not closed

A parenthesis is closed by the first one behind it that comes after properly nested text
(`Unclosed` says that there is none). What follows a parenthesis that is not closed is never cut:
it lies, with the parenthesis, in the last token of the tag. Of that token only what comes before
its last closing parenthesis is looked at. So without a closing one the tag is read as if it ended
where the open one stands, and what was written behind it is lost; that is no fault unless the name
in front needs an argument. Names of numbers and lengths are always at fault, as an argument with an
open parenthesis in it is neither.

* `unclosed_iff`: a scan that counts parentheses decides it.
* `Unclosed.uncut`: what follows an open parenthesis is not cut.
* `parseChars_append`: what follows the last closing parenthesis of such a token does not count.
* **`parseTag_unclosed`**: how a tag with an open parenthesis is read.
* `parseTag_swallows`: such a tag may be read without a fault.
-/

namespace Registrar.Decimal

/-! ## No number has a parenthesis -/

variable {cs : List Char}

theorem notMem_of_all (digits : cs.all Char.isDigit = true) : '(' ∉ cs := fun h =>
  absurd (List.all_eq_true.mp digits _ h) (by decide)

theorem notMem_of_readDigits {bound n : Nat} {excess : Refusal} : ∀ {cs : List Char} {acc : Nat},
    readDigits bound excess acc cs = .ok n → '(' ∉ cs
  | [], _, _ => List.not_mem_nil
  | c :: cs, acc, h => by
    unfold readDigits digit? at h
    split at h
    · exact absurd h (by simp)
    · rename_i d digit
      simp only at h
      split at h
      · refine List.not_mem_cons_of_ne_of_not_mem ?_ (notMem_of_readDigits h)
        rintro rfl
        rw [if_neg (by decide)] at digit
        exact absurd digit (by simp)
      · exact absurd h (by simp)

theorem notMem_of_readNat {bound n : Nat} (h : readNat bound cs = .ok n) : '(' ∉ cs := by
  unfold readNat at h
  split at h
  · exact absurd h (by simp)
  · exact absurd h (by simp)
  · exact List.not_mem_cons_of_ne_of_not_mem (by decide) (notMem_of_readDigits h)
  · exact notMem_of_readDigits h

theorem notMem_of_readExponent {e : Int} (h : readExponent cs = some e) : '(' ∉ cs := by
  unfold readExponent at h
  split at h
  · exact List.not_mem_nil
  · rename_i c rest
    split at h
    · rename_i mark
      have opening : '(' ≠ c := by rintro rfl; exact absurd mark (by decide)
      refine List.not_mem_cons_of_ne_of_not_mem opening ?_
      simp only at h
      split at h
      all_goals
        split at h
        · exact absurd h (by simp)
        · rename_i digits
          simp only [Bool.or_eq_true, Bool.not_eq_true', not_or, Bool.not_eq_false] at digits
          first
          | exact List.not_mem_cons_of_ne_of_not_mem (by decide) (notMem_of_all digits.2)
          | exact notMem_of_all digits.2
    · exact absurd h (by simp)

theorem notMem_of_readScientific {x : Scientific} (h : readScientific cs = some x) : '(' ∉ cs := by
  have behind : ∀ l : List Char, '(' ∈ l → '(' ∈ l.dropWhile Char.isDigit := by
    intro l opening
    rw [← List.takeWhile_append_dropWhile (p := Char.isDigit) (l := l)] at opening
    refine (List.mem_append.mp opening).resolve_left fun digit => ?_
    exact absurd (List.mem_takeWhile_imp digit) (by decide)
  intro opening
  have later := behind cs opening
  unfold readScientific at h
  simp only at h
  split at h
  · rename_i more point
    rw [point] at later
    have later : '(' ∈ more := (List.mem_cons.mp later).resolve_left (by decide)
    split at h
    · exact absurd h (by simp)
    · obtain ⟨e, he, -⟩ := Option.map_eq_some_iff.mp h
      exact notMem_of_readExponent he (behind more later)
  · split at h
    · exact absurd h (by simp)
    · obtain ⟨e, he, -⟩ := Option.map_eq_some_iff.mp h
      exact notMem_of_readExponent he later

theorem notMem_of_readMagnitude {x : Float} (h : readMagnitude cs = some x) : '(' ∉ cs := by
  intro opening
  have mapped : '(' ∈ cs.map Char.toLower := List.mem_map.mpr ⟨'(', opening, by decide⟩
  have other : ∀ w : String, '(' ∉ w.toList → String.ofList (cs.map Char.toLower) ≠ w := by
    rintro w free rfl
    rw [String.toList_ofList] at free
    exact free mapped
  unfold readMagnitude at h
  simp only at h
  rw [if_neg (by simp [other]), if_neg (other _ (by decide))] at h
  obtain ⟨s, hs, -⟩ := Option.map_eq_some_iff.mp h
  exact notMem_of_readScientific hs opening

theorem notMem_of_float? {x : Float} (h : float? (String.ofList cs) = some x) : '(' ∉ cs := by
  unfold float? at h
  rw [String.toList_ofList] at h
  split at h
  · exact List.not_mem_cons_of_ne_of_not_mem (by decide) (notMem_of_readMagnitude h)
  · obtain ⟨y, hy, -⟩ := Option.map_eq_some_iff.mp h
    exact List.not_mem_cons_of_ne_of_not_mem (by decide) (notMem_of_readMagnitude hy)
  · exact notMem_of_readMagnitude h

end Registrar.Decimal

namespace Registrar.Rule

open Text (Blanks Padded trimChars)

variable {a b cs inner rest token ws : List Char} {d : Nat}

/-! ## Closing -/

/-- A parenthesis in front of a text is not closed: no closing one comes after properly nested
text. -/
def Unclosed (cs : List Char) : Prop :=
  ∀ inner rest, cs = inner ++ ')' :: rest → ¬ Nested inner

/-- Whether a text closes a parenthesis in front of it, within which `d` others are open. -/
def closes : Nat → List Char → Bool
  | _, [] => false
  | d, c :: cs =>
    if c = '(' then closes (d + 1) cs
    else if c = ')' then d == 0 || closes (d - 1) cs
    else closes d cs

theorem closes_char {c : Char} (hc : c ≠ '(' ∧ c ≠ ')') (d : Nat) (cs : List Char) :
    closes d (c :: cs) = closes d cs := by
  rw [closes, if_neg hc.1, if_neg hc.2]

theorem closes_opening (d : Nat) (cs : List Char) : closes d ('(' :: cs) = closes (d + 1) cs := by
  rw [closes, if_pos rfl]

theorem closes_closing (d : Nat) (cs : List Char) : closes (d + 1) (')' :: cs) = closes d cs := by
  rw [closes, if_neg (by decide), if_pos rfl]
  rfl

theorem closes_zero (cs : List Char) : closes 0 (')' :: cs) = true := by
  rw [closes, if_neg (by decide), if_pos rfl]
  rfl

/-- The scan passes over properly nested text. -/
theorem Nested.closes_append (h : Nested inner) : ∀ d rest,
    closes d (inner ++ rest) = closes d rest := by
  induction h with
  | nil => exact fun d rest => rfl
  | char hc _ ih =>
    intro d rest
    rw [List.cons_append, closes_char hc]
    exact ih d rest
  | @group inner cs _ _ ihi ih =>
    intro d rest
    rw [List.cons_append, closes_opening, List.append_assoc, ihi, List.cons_append, closes_closing]
    exact ih d rest

/-- What the scan finds closed is so behind properly nested text, one parenthesis after the
other. -/
theorem nested_of_closes : ∀ {d : Nat} {cs : List Char}, closes d cs = true →
    ∃ inner rest, cs = inner ++ ')' :: rest ∧ Nested inner ∧
      ∀ e, d = e + 1 → closes e rest = true
  | _, [], h => absurd h (by simp [closes])
  | d, c :: cs, h => by
    by_cases opening : c = '('
    · subst opening
      rw [closes_opening] at h
      obtain ⟨inner, rest, rfl, nested, later⟩ := nested_of_closes h
      -- the parenthesis is closed at `rest`, and the one in front of it further on
      obtain ⟨inner', rest', rfl, nested', later'⟩ := nested_of_closes (later d rfl)
      exact ⟨'(' :: (inner ++ ')' :: inner'), rest', by simp, .group nested nested', later'⟩
    · by_cases closing : c = ')'
      · subst closing
        refine ⟨[], cs, rfl, .nil, ?_⟩
        rintro e rfl
        rwa [closes_closing] at h
      · rw [closes_char ⟨opening, closing⟩] at h
        obtain ⟨inner, rest, rfl, nested, later⟩ := nested_of_closes h
        exact ⟨c :: inner, rest, rfl, .char ⟨opening, closing⟩ nested, later⟩
termination_by _ cs => cs.length
decreasing_by all_goals simp_all <;> omega

/-- **The scan decides** whether a parenthesis is closed. -/
theorem unclosed_iff : Unclosed cs ↔ closes 0 cs = false := by
  constructor
  · intro unclosed
    by_contra closed
    obtain ⟨inner, rest, split, nested, -⟩ := nested_of_closes (eq_true_of_ne_false closed)
    exact unclosed inner rest split nested
  · rintro missed inner rest rfl nested
    rw [nested.closes_append, closes_zero] at missed
    exact absurd missed (by simp)

instance : Decidable (Unclosed cs) := decidable_of_iff _ unclosed_iff.symm

/-- Without a closing parenthesis nothing is closed. -/
theorem unclosed_of_notMem (h : ')' ∉ cs) : Unclosed cs := by
  rintro inner rest rfl
  exact absurd (List.mem_append_right _ List.mem_cons_self) h

theorem closes_of_notMem (free : '(' ∉ inner) (rest : List Char) :
    closes 0 (inner ++ ')' :: rest) = true := by
  induction inner with
  | nil => exact closes_zero rest
  | cons c inner ih =>
    have other : c ≠ '(' := fun same => free (same ▸ List.mem_cons_self)
    have later := ih fun h => free (List.mem_cons_of_mem c h)
    by_cases closing : c = ')'
    · rw [closing]
      exact closes_zero _
    · rw [List.cons_append, closes_char ⟨other, closing⟩]
      exact later

/-- Between an open parenthesis and a closing one another one is opened. -/
theorem Unclosed.opening_mem (h : Unclosed (inner ++ ')' :: rest)) : '(' ∈ inner := by
  by_contra free
  have missed := unclosed_iff.mp h
  rw [closes_of_notMem free] at missed
  exact absurd missed (by simp)

/-! ## What follows is not cut -/

theorem uncut_of_closes : ∀ {d : Nat} {cs : List Char}, closes d cs = false → ∀ e,
    ∃ f, Uncut (d + e + 1) f cs
  | _, [], _, _ => ⟨_, .nil _⟩
  | d, c :: cs, h, e => by
    by_cases opening : c = '('
    · subst opening
      rw [closes_opening] at h
      obtain ⟨f, uncut⟩ := uncut_of_closes h e
      rw [Nat.add_right_comm d 1 e] at uncut
      exact ⟨f, .cons (by simp) uncut⟩
    · by_cases closing : c = ')'
      · subst closing
        cases d with
        | zero => exact absurd h (by simp [closes_zero])
        | succ d =>
          rw [closes_closing] at h
          obtain ⟨f, uncut⟩ := uncut_of_closes h e
          rw [Nat.add_right_comm d 1 e]
          exact ⟨f, .cons (by simp) uncut⟩
      · rw [closes_char ⟨opening, closing⟩] at h
        obtain ⟨f, uncut⟩ := uncut_of_closes h e
        refine ⟨f, .cons (by simp) ?_⟩
        unfold depthAfter
        rwa [if_neg opening, if_neg closing]

/-- **What follows an open parenthesis is not cut**, however deep it stands. -/
theorem Unclosed.uncut (h : Unclosed cs) (d : Nat) : ∃ e, Uncut d e ('(' :: cs) := by
  obtain ⟨e, uncut⟩ := uncut_of_closes (unclosed_iff.mp h) d
  rw [Nat.zero_add] at uncut
  exact ⟨e, .cons (by simp) uncut⟩

/-! ## Tokens -/

/-- The name of a token ends at its first parenthesis. -/
theorem tokenName_append (h : '(' ∈ token ∨ ∃ cs, ws = '(' :: cs) :
    tokenName (token ++ ws) = tokenName token := by
  have same : (token ++ ws).takeWhile (· != '(') = token.takeWhile (· != '(') := by
    rw [List.takeWhile_append]
    split
    · rename_i whole
      have free := (List.takeWhile_prefix _).eq_of_length whole
      rcases h with opens | ⟨cs, rfl⟩
      · rw [← free] at opens
        exact absurd (List.mem_takeWhile_imp opens) (by simp)
      · rw [List.takeWhile_cons_of_neg (by simp), List.append_nil, free]
    · rfl
  unfold tokenName
  rw [same]

/-- The argument of a token ends at its last closing parenthesis. -/
theorem tokenArg_append (h : ')' ∉ ws) : tokenArg (token ++ ws) = tokenArg token := by
  have free : ∀ l : List Char, l ⊆ ws → ∀ c ∈ l.reverse, (c != ')') = true := fun l sub c hc =>
    bne_iff_ne.mpr fun same => h (sub (List.mem_reverse.mp (same ▸ hc)))
  unfold tokenArg
  rw [List.dropWhile_append]
  split
  · rename_i unopened
    have sub : (ws.dropWhile (· != '(')).tail ⊆ ws := fun c hc =>
      (List.dropWhile_sublist _).subset (List.mem_of_mem_tail hc)
    rw [List.isEmpty_iff.mp unopened]
    simp only
    rw [List.dropWhile_eq_nil_iff.mpr (free _ sub)]
    rfl
  · rename_i opened
    have opened : token.dropWhile (· != '(') ≠ [] := fun gone => opened (by rw [gone]; rfl)
    simp only
    rw [List.tail_append_of_ne_nil opened, List.reverse_append,
      List.dropWhile_append_of_pos (free ws fun _ hc => hc)]

theorem ofToken_append (nested : List Char → Except Fault (List Rule))
    (opens : '(' ∈ token ∨ ∃ cs, ws = '(' :: cs) (h : ')' ∉ ws) :
    ofToken nested (token ++ ws) = ofToken nested token := by
  unfold ofToken
  rw [tokenName_append opens, tokenArg_append h]

theorem readAll_singleton (piece : List Char) :
    readAll [piece] = (ofToken parseChars piece).map Option.toList := by
  rw [readAll_cons]
  cases ofToken parseChars piece with
  | error fault => rfl
  | ok rule => exact congrArg Except.ok (List.append_nil _)

theorem readAll_append_singleton (piece : List Char) : ∀ pieces : List (List Char),
    readAll (pieces ++ [piece]) = do
      let rules ← readAll pieces
      let rule ← ofToken parseChars piece
      return rules ++ rule.toList
  | [] => by
    rw [List.nil_append, readAll_singleton]
    cases ofToken parseChars piece <;> rfl
  | first :: pieces => by
    rw [List.cons_append, readAll_cons, readAll_cons, readAll_append_singleton piece pieces]
    cases ofToken parseChars first with
    | error fault => rfl
    | ok rule =>
      cases readAll pieces with
      | error fault => rfl
      | ok rules =>
        cases ofToken parseChars piece with
        | error fault => rfl
        | ok last => exact congrArg Except.ok (List.append_assoc ..).symm

/-! ## Reading -/

section Reading

variable {x y last : List Char} {pieces : List (List Char)}

/-- A text that is not cut is read as one token. -/
theorem parseChars_uncut {cs : List Char} (whole : splitBars 0 cs = [cs]) :
    parseChars cs = (ofToken parseChars cs).map Option.toList := by
  rw [parseChars_eq_readAll, whole, readAll_singleton]

theorem exists_splitBars (a : List Char) : ∃ pieces last, splitBars 0 a = pieces ++ [last] :=
  ⟨_, _, (List.dropLast_concat_getLast (splitBars_ne_nil 0 a)).symm⟩

/-- **A tag is read as its pieces before an open parenthesis, and one token.** -/
theorem parseChars_unclosed (h : Unclosed b) (cut : splitBars 0 a = pieces ++ [last]) :
    parseChars (a ++ '(' :: b) = do
      let rules ← readAll pieces
      let rule ← ofToken parseChars (last ++ '(' :: b)
      return rules ++ rule.toList := by
  obtain ⟨pieces', last', before, after⟩ := splitBars_append h.uncut 0 a
  obtain ⟨rfl, same⟩ := List.append_inj' (cut.symm.trans before) rfl
  obtain rfl := List.singleton_inj.mp same
  rw [parseChars_eq_readAll, after, readAll_append_singleton]

theorem Unclosed.of_append (h : Unclosed (x ++ y)) : Unclosed x := by
  rintro inner rest rfl
  exact h inner (rest ++ y) (by simp)

/-- **What follows the last closing parenthesis does not count.** -/
theorem parseChars_append (h : Unclosed (x ++ y)) (free : ')' ∉ y) :
    parseChars (a ++ '(' :: (x ++ y)) = parseChars (a ++ '(' :: x) := by
  obtain ⟨pieces, last, cut⟩ := exists_splitBars a
  have opens : '(' ∈ last ++ '(' :: x := List.mem_append_right _ List.mem_cons_self
  have same := ofToken_append parseChars (.inl opens) free
  rw [List.append_assoc, List.cons_append] at same
  rw [parseChars_unclosed h cut, parseChars_unclosed h.of_append cut, same]

/-- **Without a closing parenthesis the open one ends the tag.** -/
theorem parseChars_of_notMem (free : ')' ∉ b) : parseChars (a ++ '(' :: b) = parseChars a := by
  obtain ⟨pieces, last, cut⟩ := exists_splitBars a
  have opens : '(' ∈ last ∨ ∃ cs, '(' :: b = '(' :: cs := .inr ⟨b, rfl⟩
  have same := ofToken_append parseChars opens
    (List.not_mem_cons_of_ne_of_not_mem (by decide) free)
  rw [parseChars_unclosed (unclosed_of_notMem free) cut, same, parseChars_eq_readAll, cut,
    readAll_append_singleton]

end Reading

/-! ## Names of numbers and lengths -/

/-- A name whose argument is a number or a length. -/
def Keyword.isNumeric : Keyword → Bool
  | .gt | .gte | .lt | .lte | .len | .minLen | .maxLen => true
  | _ => false

section Numeric

variable {arg given : List Char} {rule : String}

theorem required_eq_ok (h : required rule arg = .ok given) : given = arg ∧ arg ≠ [] := by
  unfold required at h
  split at h
  · exact absurd h (by simp)
  · rename_i full
    exact ⟨(Except.ok.inj h).symm, fun empty => full (by rw [empty]; rfl)⟩

theorem number_eq_ok {x : Float} (h : number rule arg = .ok x) : arg ≠ [] ∧ '(' ∉ arg := by
  unfold number at h
  obtain ⟨given, hgiven, valid⟩ := bind_eq_ok.mp h
  obtain ⟨rfl, full⟩ := required_eq_ok hgiven
  simp only at valid
  split at valid
  · rename_i read
    exact ⟨full, Decimal.notMem_of_float? read⟩
  · exact absurd valid (by simp [throw, throwThe, MonadExceptOf.throw])

theorem length_eq_ok {n : Nat} (h : length rule arg = .ok n) : arg ≠ [] ∧ '(' ∉ arg := by
  unfold length at h
  obtain ⟨given, hgiven, valid⟩ := bind_eq_ok.mp h
  obtain ⟨rfl, full⟩ := required_eq_ok hgiven
  split at valid
  · rename_i read
    exact ⟨full, Decimal.notMem_of_readNat read⟩
  · exact absurd valid (by simp [throw, throwThe, MonadExceptOf.throw])

/-- What is read as a number or a length is not empty, and has no open parenthesis in it. -/
theorem Keyword.test_eq_ok {k : Keyword} {t : Test} (numeric : k.isNumeric = true)
    (h : k.test arg = .ok t) : arg ≠ [] ∧ '(' ∉ arg := by
  cases k with
  | gt | gte | lt | lte =>
    obtain ⟨x, hx, -⟩ := map_eq_ok.mp h
    exact number_eq_ok hx
  | len | minLen | maxLen =>
    obtain ⟨n, hn, -⟩ := map_eq_ok.mp h
    exact length_eq_ok hn
  | _ => exact absurd numeric (by decide)

end Numeric

/-- The argument of a token with an open parenthesis is empty, or has an open parenthesis in it. -/
theorem tokenArg_unclosed {name : List Char} (h : Unclosed b) (hname : Unmarked name) :
    tokenArg (name ++ '(' :: b) = [] ∨ '(' ∈ tokenArg (name ++ '(' :: b) := by
  by_cases closing : ')' ∈ b
  · right
    -- the last closing parenthesis ends the argument
    obtain ⟨y, x, reversed, free⟩ := List.eq_append_cons_of_mem (List.mem_reverse.mpr closing)
    have split : b = x.reverse ++ ')' :: y.reverse := by
      rw [← List.reverse_reverse b, reversed]
      simp
    have token : name ++ '(' :: b = name ++ '(' :: (x.reverse ++ [')']) ++ y.reverse := by
      rw [split]
      simp
    rw [token, tokenArg_append fun h => free (List.mem_reverse.mp h), tokenArg_applied hname]
    obtain ⟨before, after, hbefore, hafter, trimmed⟩ := Text.exists_eq_append_trimChars x.reverse
    have opening : '(' ∈ x.reverse := (split ▸ h).opening_mem
    rw [trimmed] at opening
    have kept := (List.mem_append.mp opening).resolve_left (hbefore.not_mem (by decide))
    exact (List.mem_append.mp kept).resolve_right (hafter.not_mem (by decide))
  · left
    rw [tokenArg_append (List.not_mem_cons_of_ne_of_not_mem (by decide) closing)]
    exact tokenArg_bare hname

/-- The name of a keyword, with blanks around it, has no parentheses and no bars. -/
theorem unmarked_of_tokenName {name : List Char} {k : Keyword} (first : '(' ∉ name)
    (hname : tokenName name = k.name) : Unmarked name := by
  have whole : name.takeWhile (· != '(') = name :=
    List.takeWhile_eq_self_iff.mpr fun c hc => bne_iff_ne.mpr fun same => first (same ▸ hc)
  unfold tokenName at hname
  rw [whole] at hname
  refine Unmarked.padded ?_ (Text.padded_trimChars name)
  rw [← String.toList_ofList (l := trimChars name), hname]
  exact k.unmarked_name

/-- **A name of a number or a length is at fault** where its parenthesis is not closed. -/
theorem ofToken_eq_error (nested : List Char → Except Fault (List Rule)) {last : List Char}
    {k : Keyword} (h : Unclosed b) (first : '(' ∉ last) (hname : tokenName last = k.name)
    (numeric : k.isNumeric = true) :
    ∃ fault, ofToken nested (last ++ '(' :: b) = .error fault := by
  have named : tokenName (last ++ '(' :: b) = k.name :=
    (tokenName_append (.inr ⟨b, rfl⟩)).trans hname
  have bad := tokenArg_unclosed h (unmarked_of_tokenName first hname)
  rw [ofToken_known named]
  cases tested : k.test (tokenArg (last ++ '(' :: b)) with
  | error fault => exact ⟨fault, rfl⟩
  | ok t =>
    obtain ⟨full, free⟩ := Keyword.test_eq_ok numeric tested
    exact absurd bad (by simp [full, free])

/-- **How a tag with an open parenthesis is read**: as what its pieces before the one with the
parenthesis stand for, and one token made of all the rest. A fault is certain where the
parenthesis is the first in its piece and the name before it is one of a number or a length. What
follows the last closing parenthesis behind the open one does not count; and if there is none,
the tag is read as if it ended before the open one. -/
theorem parseTag_unclosed {tag : String} (htag : tag.toList = a ++ '(' :: b) (h : Unclosed b) :
    (∃ pieces last, splitBars 0 a = pieces ++ [last] ∧
      (parseTag tag = do
        let rules ← readAll pieces
        let rule ← ofToken parseChars (last ++ '(' :: b)
        return rules ++ rule.toList) ∧
      ('(' ∉ last → ∀ k : Keyword, tokenName last = k.name → k.isNumeric = true →
        ∃ fault, parseTag tag = .error fault)) ∧
    (∀ x y, b = x ++ y → ')' ∉ y → parseTag tag = parseChars (a ++ '(' :: x)) ∧
    (')' ∉ b → parseTag tag = parseChars a) := by
  unfold parseTag
  rw [htag]
  refine ⟨?_, ?_, parseChars_of_notMem⟩
  · obtain ⟨pieces, last, cut⟩ := exists_splitBars a
    have read := parseChars_unclosed h cut
    refine ⟨pieces, last, cut, read, fun first k hname numeric => ?_⟩
    obtain ⟨fault, failed⟩ := ofToken_eq_error parseChars h first hname numeric
    rw [read, failed]
    cases readAll pieces with
    | error earlier => exact ⟨earlier, rfl⟩
    | ok rules => exact ⟨fault, rfl⟩
  · rintro x y rfl free
    exact parseChars_append h free

/-- A rule whose argument is cut off, and a number that two open parentheses leave unread. -/
theorem parseTag_unclosed_each :
    parseTag "nonzero|each(minlen(3" = parseChars "nonzero|each".toList ∧
    ∃ fault, parseTag "alpha|gt(5|lt((3)" = .error fault := by
  have each : Unclosed "minlen(3".toList := by decide
  have gt : Unclosed "5|lt((3)".toList := by decide
  constructor
  · have spelled : "nonzero|each(minlen(3".toList
        = "nonzero|each".toList ++ '(' :: "minlen(3".toList := rfl
    exact (parseTag_unclosed spelled each).2.2 (by decide)
  · have spelled : "alpha|gt(5|lt((3)".toList = "alpha|gt".toList ++ '(' :: "5|lt((3)".toList := rfl
    obtain ⟨pieces, last, cut, -, fails⟩ := (parseTag_unclosed spelled gt).1
    obtain ⟨-, same⟩ : pieces = ["alpha".toList] ∧ [last] = ["gt".toList] :=
      List.append_inj' (cut.symm.trans (by decide)) rfl
    obtain rfl := List.singleton_inj.mp same
    exact fails (by decide) .gt (by decide) rfl

/-- **Rules behind an open parenthesis may be lost without a fault.** -/
theorem parseTag_swallows :
    (Unclosed "nonzero".toList ∧ parseTag "each(nonzero" = .ok [.each []]) ∧
    (Unclosed "|minlen(3)".toList ∧ parseTag "nonzero(|minlen(3)" = .ok [.test .nonzero]) ∧
    (Unclosed "up|nonzero".toList ∧ parseTag "made(up|nonzero" = .ok []) := by
  have none : parseChars [] = .ok [] := parseChars_uncut rfl
  have each : ofToken parseChars "each".toList = .ok (some (.each [])) := by
    rw [ofToken_nest (show tokenName "each".toList = Combinator.each.name by decide),
      show tokenArg "each".toList = [] by decide, none]
    rfl
  refine ⟨⟨by decide, ?_⟩, ⟨by decide, ?_⟩, ⟨by decide, ?_⟩⟩
  · calc parseTag "each(nonzero"
      _ = parseChars "each".toList :=
        parseChars_of_notMem (a := "each".toList) (b := "nonzero".toList) (by decide)
      _ = (ofToken parseChars "each".toList).map Option.toList := parseChars_uncut (by decide)
      _ = .ok [.each []] := by rw [each]; rfl
  · exact parseChars_uncut (by decide)
  · calc parseTag "made(up|nonzero"
      _ = parseChars "made".toList :=
        parseChars_of_notMem (a := "made".toList) (b := "up|nonzero".toList) (by decide)
      _ = (ofToken parseChars "made".toList).map Option.toList := parseChars_uncut (by decide)

end Registrar.Rule
