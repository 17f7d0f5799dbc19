import Mathlib.Data.List.TakeWhile
import Registrar.Proofs.Outcomes
import Registrar.Rule.Tag

/-!
# Tags cut into tokens

How a tag falls into pieces, and what the name and the argument of a piece are, put so that pieces
can be laid one behind the other. Blanks at the ends of a piece do not count, and a piece of blanks
stands for no rule, so a tag can be read from its untrimmed pieces.

* `Uncut.append`: texts that are not cut are not cut together.
* `tokenName_applied`, `tokenArg_applied`: the parts of a name with an argument.
* `parseChars_eq_readAll`: a tag is read piece by piece.
-/

namespace Registrar

/-! ## Trimming -/

namespace Text

/-- Nothing but blanks. -/
def Blanks (cs : List Char) : Prop := ∀ c ∈ cs, isBlank c = true

variable {a b cs : List Char}

theorem Blanks.reverse (h : Blanks b) : Blanks b.reverse := fun c hc =>
  h c (List.mem_reverse.mp hc)

/-- A parenthesis or a bar is no blank. -/
theorem Blanks.not_mem (h : Blanks b) {c : Char} (hc : isBlank c = false) : c ∉ b := by
  intro hm
  rw [h c hm] at hc
  exact absurd hc (by simp)

theorem trimChars_blanks (h : Blanks b) : trimChars b = [] := by
  have gone : b.dropWhile isBlank = [] := by
    rw [List.dropWhile_eq_nil_iff]
    exact h
  unfold trimChars
  rw [gone]
  rfl

theorem trimChars_append_left (h : Blanks a) : trimChars (a ++ cs) = trimChars cs := by
  unfold trimChars
  rw [List.dropWhile_append_of_pos h]

theorem trimChars_append_right (h : Blanks b) : trimChars (cs ++ b) = trimChars cs := by
  by_cases hcs : Blanks cs
  · have both : Blanks (cs ++ b) := fun c hc => (List.mem_append.mp hc).elim (hcs c) (h c)
    rw [trimChars_blanks both, trimChars_blanks hcs]
  · have left : (cs.dropWhile isBlank).isEmpty = false := by
      rw [List.isEmpty_eq_false_iff]
      intro gone
      exact hcs (List.dropWhile_eq_nil_iff.mp gone)
    unfold trimChars
    rw [List.dropWhile_append, left, if_neg Bool.false_ne_true, List.reverse_append,
      List.dropWhile_append_of_pos h.reverse]

/-- What trimming takes off are blanks. -/
theorem exists_eq_append_trimChars (cs : List Char) :
    ∃ a b, Blanks a ∧ Blanks b ∧ cs = a ++ (trimChars cs ++ b) := by
  have all : ∀ l : List Char, Blanks (l.takeWhile isBlank) := fun l c => List.mem_takeWhile_imp
  refine ⟨cs.takeWhile isBlank, ((cs.dropWhile isBlank).reverse.takeWhile isBlank).reverse, all _,
    (all _).reverse, ?_⟩
  unfold trimChars
  rw [← List.reverse_append, List.takeWhile_append_dropWhile, List.reverse_reverse,
    List.takeWhile_append_dropWhile]

/-- A text with blanks around it. -/
def Padded (core cs : List Char) : Prop := ∃ a b, Blanks a ∧ Blanks b ∧ cs = a ++ (core ++ b)

theorem padded_trimChars (cs : List Char) : Padded (trimChars cs) cs :=
  exists_eq_append_trimChars cs

theorem Padded.trimChars_eq {core : List Char} (h : Padded core cs) :
    trimChars cs = trimChars core := by
  obtain ⟨a, b, ha, hb, rfl⟩ := h
  rw [trimChars_append_left ha, trimChars_append_right hb]

end Text

/-! ## Cutting at bars -/

namespace Rule

open Text (Blanks Padded trimChars)

/-- A character that opens, closes or separates. -/
def IsMark (c : Char) : Prop := c = '(' ∨ c = ')' ∨ c = '|'

/-- A text without parentheses and bars. -/
def Unmarked (cs : List Char) : Prop := ∀ c ∈ cs, ¬ IsMark c

theorem unmarked_of_blanks {cs : List Char} (h : Blanks cs) : Unmarked cs := by
  rintro c hc (rfl | rfl | rfl)
  · exact h.not_mem (by decide) hc
  · exact h.not_mem (by decide) hc
  · exact h.not_mem (by decide) hc

/-- How many parentheses are open after a character. -/
def depthAfter (depth : Nat) (c : Char) : Nat :=
  if c = '(' then depth + 1 else if c = ')' then depth - 1 else depth

theorem splitBars_ne_nil (depth : Nat) (cs : List Char) : splitBars depth cs ≠ [] := by
  cases cs with
  | nil => simp [splitBars]
  | cons c cs =>
    unfold splitBars
    split
    · simp
    · simp only
      split <;> simp

/-- A character that does not separate stays in the first piece. -/
theorem splitBars_cons {depth : Nat} {c : Char} (h : ¬ (c = '|' ∧ depth = 0)) (cs : List Char) :
    splitBars depth (c :: cs) = (splitBars (depthAfter depth c) cs).modifyHead (c :: ·) := by
  rw [splitBars, if_neg h]
  simp only
  unfold depthAfter
  split
  · rename_i pieces
    rw [pieces]
    rfl
  · rename_i pieces
    exact absurd pieces (splitBars_ne_nil _ _)

/-- A text that is read from depth `d` to depth `e` without being cut. -/
def Uncut (d e : Nat) (cs : List Char) : Prop :=
  ∀ rest, splitBars d (cs ++ rest) = (splitBars e rest).modifyHead (cs ++ ·)

namespace Uncut

variable {d e f : Nat} {a b cs : List Char}

theorem nil (d : Nat) : Uncut d d [] := by
  intro rest
  rw [List.nil_append]
  cases splitBars d rest <;> rfl

theorem cons {c : Char} (hc : ¬ (c = '|' ∧ d = 0)) (h : Uncut (depthAfter d c) e cs) :
    Uncut d e (c :: cs) := by
  intro rest
  rw [List.cons_append, splitBars_cons hc, h rest, List.modifyHead_modifyHead]
  rfl

theorem append (ha : Uncut d e a) (hb : Uncut e f b) : Uncut d f (a ++ b) := by
  intro rest
  rw [List.append_assoc, ha, hb, List.modifyHead_modifyHead]
  congr 1
  funext piece
  exact (List.append_assoc a b piece).symm

/-- What has no marks is not cut at any depth. -/
theorem of_unmarked (h : Unmarked cs) : Uncut d d cs := by
  induction cs with
  | nil => exact nil d
  | cons c cs ih =>
    obtain ⟨hc, h⟩ := List.forall_mem_cons.mp h
    have same : depthAfter d c = d := by
      unfold depthAfter
      rw [if_neg fun e => hc (.inl e), if_neg fun e => hc (.inr (.inl e))]
    refine cons (fun bar => hc (.inr (.inr bar.1))) ?_
    rw [same]
    exact ih h

theorem of_blanks (h : Blanks cs) : Uncut d d cs := of_unmarked (unmarked_of_blanks h)

theorem padded {core : List Char} (hcore : Uncut d d core) (h : Padded core cs) :
    Uncut d d cs := by
  obtain ⟨a, b, ha, hb, rfl⟩ := h
  exact (of_blanks ha).append (hcore.append (of_blanks hb))

/-- What is not cut inside parentheses is not cut with them. -/
theorem parenthesized (h : Uncut (d + 1) (d + 1) cs) : Uncut d d ('(' :: (cs ++ [')'])) :=
  cons (by simp) (h.append (cons (by simp) (nil d)))

/-- Two texts with a bar between them are not cut inside parentheses. -/
theorem bar (ha : Uncut (d + 1) (d + 1) a) (hb : Uncut (d + 1) (d + 1) b) :
    Uncut (d + 1) (d + 1) (a ++ '|' :: b) :=
  ha.append (cons (by simp) hb)

/-- A text that is not cut is one piece. -/
theorem splitBars_eq (h : Uncut d e cs) : splitBars d cs = [cs] := by
  have whole := h []
  rw [List.append_nil, splitBars, List.modifyHead_cons, List.append_nil] at whole
  exact whole

/-- A bar ends the piece before it. -/
theorem splitBars_bar (h : Uncut 0 0 cs) (rest : List Char) :
    splitBars 0 (cs ++ '|' :: rest) = cs :: splitBars 0 rest := by
  rw [h, splitBars, if_pos ⟨rfl, rfl⟩, List.modifyHead_cons, List.append_nil]

end Uncut

/-! ## The parts of a token -/

section Parts

variable {core cs name arg : List Char}

theorem tokenName_padded (h : Padded core cs) : tokenName cs = tokenName core := by
  obtain ⟨a, b, ha, hb, rfl⟩ := h
  have opens : ∀ {ws : List Char}, Blanks ws → ∀ c ∈ ws, (c != '(') = true := by
    intro ws hws c hc
    rw [bne_iff_ne]
    rintro rfl
    exact hws.not_mem (by decide) hc
  unfold tokenName
  rw [List.takeWhile_append_of_pos (opens ha), Text.trimChars_append_left ha,
    List.takeWhile_append]
  split
  · rename_i whole
    have none : core.takeWhile (· != '(') = core :=
      (List.takeWhile_prefix _).eq_of_length whole
    rw [none, List.takeWhile_eq_self_iff.mpr (opens hb), Text.trimChars_append_right hb]
  · rfl

theorem tokenArg_padded (h : Padded core cs) : tokenArg cs = tokenArg core := by
  obtain ⟨a, b, ha, hb, rfl⟩ := h
  have free : ∀ {ws : List Char} {mark : Char}, Blanks ws → Text.isBlank mark = false →
      ∀ c ∈ ws, (c != mark) = true := by
    intro ws mark hws hmark c hc
    rw [bne_iff_ne]
    rintro rfl
    exact hws.not_mem hmark hc
  unfold tokenArg
  rw [List.dropWhile_append_of_pos (free ha (by decide)), List.dropWhile_append]
  split
  · rename_i gone
    rw [List.isEmpty_iff.mp gone, List.dropWhile_eq_nil_iff.mpr (free hb (by decide))]
  · rename_i left
    have left : core.dropWhile (· != '(') ≠ [] := fun gone => left (by rw [gone]; rfl)
    simp only
    rw [List.tail_append_of_ne_nil left, List.reverse_append,
      List.dropWhile_append_of_pos (free hb.reverse (by decide))]

/-- The name of a name alone. -/
theorem tokenName_bare (hname : Unmarked name) :
    tokenName name = String.ofList (trimChars name) := by
  have all : name.takeWhile (· != '(') = name := by
    rw [List.takeWhile_eq_self_iff]
    exact fun c hc => bne_iff_ne.mpr fun e => hname c hc (.inl e)
  unfold tokenName
  rw [all]

/-- A name alone has no argument. -/
theorem tokenArg_bare (hname : Unmarked name) : tokenArg name = [] := by
  have none : name.dropWhile (· != '(') = [] := by
    rw [List.dropWhile_eq_nil_iff]
    exact fun c hc => bne_iff_ne.mpr fun e => hname c hc (.inl e)
  unfold tokenArg
  rw [none]
  rfl

theorem opening_of_unmarked (hname : Unmarked name) : ∀ c ∈ name, (c != '(') = true :=
  fun c hc => bne_iff_ne.mpr fun e => hname c hc (.inl e)

/-- The name of a name with an argument. -/
theorem tokenName_applied (hname : Unmarked name) (arg : List Char) :
    tokenName (name ++ '(' :: (arg ++ [')'])) = String.ofList (trimChars name) := by
  unfold tokenName
  rw [List.takeWhile_append_of_pos (opening_of_unmarked hname),
    List.takeWhile_cons_of_neg (by simp), List.append_nil]

/-- The argument of a name with an argument: whatever parentheses stand in it, the last one closes
it. -/
theorem tokenArg_applied (hname : Unmarked name) (arg : List Char) :
    tokenArg (name ++ '(' :: (arg ++ [')'])) = trimChars arg := by
  unfold tokenArg
  rw [List.dropWhile_append_of_pos (opening_of_unmarked hname),
    List.dropWhile_cons_of_neg (by simp)]
  simp only
  rw [List.tail_cons, List.reverse_append, List.reverse_singleton, List.singleton_append,
    List.dropWhile_cons_of_neg (by simp), List.tail_cons, List.reverse_reverse]

end Parts

/-! ## Reading pieces -/

/-- The rules that pieces of a tag stand for. -/
def readAll (pieces : List (List Char)) : Except Fault (List Rule) :=
  (pieces.mapM (ofToken parseChars)).map fun rules => rules.filterMap id

theorem readAll_cons (piece : List Char) (pieces : List (List Char)) :
    readAll (piece :: pieces) = do
      let rule ← ofToken parseChars piece
      let rules ← readAll pieces
      return rule.toList ++ rules := by
  unfold readAll
  rw [List.mapM_cons]
  cases ofToken parseChars piece with
  | error fault => rfl
  | ok rule =>
    cases pieces.mapM (ofToken parseChars) with
    | error fault => rfl
    | ok rules => cases rule <;> rfl

/-- Blanks around a piece do not count. -/
theorem ofToken_padded {nested : List Char → Except Fault (List Rule)} {core cs : List Char}
    (h : Padded core cs) : ofToken nested cs = ofToken nested core := by
  unfold ofToken
  rw [tokenName_padded h, tokenArg_padded h]

/-- An empty piece stands for no rule. -/
theorem ofToken_nil (nested : List Char → Except Fault (List Rule)) :
    ofToken nested [] = .ok none := rfl

theorem readAll_tokens : ∀ pieces : List (List Char),
    readAll ((pieces.map trimChars).filter (!·.isEmpty)) = readAll pieces
  | [] => rfl
  | piece :: pieces => by
    have trimmed : ofToken parseChars (trimChars piece) = ofToken parseChars piece :=
      (ofToken_padded (Text.padded_trimChars piece)).symm
    rw [List.map_cons, List.filter_cons, readAll_cons piece, ← trimmed]
    split
    · rw [readAll_cons, readAll_tokens pieces]
    · rename_i empty
      have empty : trimChars piece = [] := by simpa using empty
      rw [empty, ofToken_nil, readAll_tokens pieces]
      cases readAll pieces <;> rfl

/-- **A tag is read piece by piece**, trimmed or not. -/
theorem parseChars_eq_readAll (cs : List Char) : parseChars cs = readAll (splitBars 0 cs) := by
  rw [parseChars_eq]
  exact readAll_tokens _

/-- What is not cut at any depth lies, after a text, in the last piece of the text. -/
theorem splitBars_append {b : List Char} (hb : ∀ d, ∃ e, Uncut d e b) (d : Nat) (cs : List Char) :
    ∃ pieces last, splitBars d cs = pieces ++ [last] ∧
      splitBars d (cs ++ b) = pieces ++ [last ++ b] := by
  induction cs generalizing d with
  | nil =>
    obtain ⟨e, uncut⟩ := hb d
    exact ⟨[], [], rfl, uncut.splitBars_eq⟩
  | cons c cs ih =>
    by_cases hc : c = '|' ∧ d = 0
    · obtain ⟨rfl, rfl⟩ := hc
      obtain ⟨pieces, last, before, after⟩ := ih 0
      refine ⟨[] :: pieces, last, ?_, ?_⟩
      · rw [splitBars, if_pos ⟨rfl, rfl⟩, before]
        rfl
      · rw [List.cons_append, splitBars, if_pos ⟨rfl, rfl⟩, after]
        rfl
    · obtain ⟨pieces, last, before, after⟩ := ih (depthAfter d c)
      rw [List.cons_append, splitBars_cons hc, splitBars_cons hc, before, after]
      cases pieces with
      | nil => exact ⟨[], c :: last, rfl, rfl⟩
      | cons piece pieces => exact ⟨(c :: piece) :: pieces, last, rfl, rfl⟩

/-- Blanks after a text lie in its last piece. -/
theorem splitBars_append_blanks {b : List Char} (hb : Blanks b) (d : Nat) (cs : List Char) :
    ∃ pieces last, splitBars d cs = pieces ++ [last] ∧
      splitBars d (cs ++ b) = pieces ++ [last ++ b] :=
  splitBars_append (fun d => ⟨d, Uncut.of_blanks hb⟩) d cs

theorem parseChars_append_left {a : List Char} (ha : Blanks a) (cs : List Char) :
    parseChars (a ++ cs) = parseChars cs := by
  rw [parseChars_eq_readAll, parseChars_eq_readAll, Uncut.of_blanks ha cs]
  cases splitBars 0 cs with
  | nil => rfl
  | cons piece pieces =>
    have padded : Padded piece (a ++ piece) :=
      ⟨a, [], ha, fun _ h => absurd h List.not_mem_nil, by rw [List.append_nil]⟩
    rw [List.modifyHead_cons, readAll_cons, readAll_cons, ofToken_padded padded]

theorem parseChars_append_right {b : List Char} (hb : Blanks b) (cs : List Char) :
    parseChars (cs ++ b) = parseChars cs := by
  obtain ⟨pieces, last, before, after⟩ := splitBars_append_blanks hb 0 cs
  rw [parseChars_eq_readAll, parseChars_eq_readAll, before, after]
  clear before after
  induction pieces with
  | nil =>
    have padded : Padded last (last ++ b) := ⟨[], b, fun _ h => absurd h List.not_mem_nil, hb, rfl⟩
    rw [List.nil_append, List.nil_append, readAll_cons, readAll_cons, ofToken_padded padded]
  | cons piece pieces ih =>
    rw [List.cons_append, List.cons_append, readAll_cons, readAll_cons, ih]

/-- Blanks around a tag do not count. -/
theorem parseChars_padded {core cs : List Char} (h : Padded core cs) :
    parseChars cs = parseChars core := by
  obtain ⟨a, b, ha, hb, rfl⟩ := h
  rw [parseChars_append_left ha, parseChars_append_right hb]

end Rule

end Registrar
