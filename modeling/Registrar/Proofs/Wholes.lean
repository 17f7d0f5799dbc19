import Mathlib.Computability.Language
import Registrar.Pattern.Formats
import Registrar.Proofs.Matching

/-!
# Patterns for whole texts

A pattern without anchors asks nothing of what stands around a match, so all that counts is the
text that the match takes up. These texts make up the language of the pattern: one pattern after
another has the product of two languages, a choice their sum, and a repetition some powers. A
pattern for the whole text matches a text if and only if the text belongs to the language.

* `matches_iff`: a match of a pattern without anchors goes over a text of its language.
* **`found_whole_iff`**: a pattern for the whole text is found in the texts of its language.
-/

namespace Registrar.Pattern

/-! ## Sets -/

@[simp] theorem CharSet.contains_between {a b c : Char} :
    (CharSet.between a b).contains c = true ↔ a.toNat ≤ c.toNat ∧ c.toNat ≤ b.toNat := by
  simp [CharSet.between]

@[simp] theorem CharSet.contains_single {a c : Char} :
    (CharSet.single a).contains c = true ↔ c = a := by
  rw [← Char.toNat_inj]
  simp [CharSet.single, Nat.le_antisymm_iff, and_comm]

variable {t : Array Char} {p q : Pattern} {L : Language Char} {R : Nat → Nat → Prop}
variable {u v w : List Char} {c : Char} {set : CharSet} {n i j k : Nat}

/-! ## Languages -/

/-- Whether a pattern has no anchors. -/
def isPlain : Pattern → Bool
  | .empty | .char _ => true
  | .anchor _ => false
  | .cat p q | .alt p q => p.isPlain && q.isPlain
  | .group _ p | .times p _ _ _ => p.isPlain

/-- The texts of one character of a set. -/
def oneChar (set : CharSet) : Language Char := {w | ∃ c, set.contains c = true ∧ w = [c]}

/-- The texts that a match of a pattern takes up, as far as anchors allow it. -/
def language : Pattern → Language Char
  | .empty | .anchor _ => 1
  | .char set => oneChar set
  | .cat p q => p.language * q.language
  | .alt p q => p.language + q.language
  | .group _ p => p.language
  | .times p least most _ =>
    {w | ∃ n, least ≤ n ∧ (∀ m ∈ most, n ≤ max least m) ∧ w ∈ p.language ^ n}

theorem mem_oneChar : w ∈ oneChar set ↔ ∃ c, set.contains c = true ∧ w = [c] := Iff.rfl

@[simp] theorem nil_notMem_oneChar_mul : [] ∉ oneChar set * L := by
  rintro ⟨_, ⟨c, _, rfl⟩, v, _, h⟩
  exact List.cons_ne_nil c v h

@[simp] theorem cons_mem_oneChar_mul :
    c :: v ∈ oneChar set * L ↔ set.contains c = true ∧ v ∈ L := by
  rw [Language.mem_mul]
  constructor
  · rintro ⟨_, ⟨d, hd, rfl⟩, w, hw, h⟩
    obtain ⟨rfl, rfl⟩ := List.cons.inj h
    exact ⟨hd, hw⟩
  · rintro ⟨hc, hv⟩
    exact ⟨[c], ⟨c, hc, rfl⟩, v, hv, rfl⟩

@[simp] theorem cons_mem_oneChar : c :: v ∈ oneChar set ↔ set.contains c = true ∧ v = [] := by
  rw [← mul_one (oneChar set), cons_mem_oneChar_mul, Language.mem_one]

@[simp] theorem nil_notMem_oneChar : [] ∉ oneChar set := by
  rw [← mul_one (oneChar set)]
  exact nil_notMem_oneChar_mul

theorem oneChar_single : oneChar (.single c) = {[c]} := by
  ext w
  simp only [mem_oneChar, CharSet.contains_single, exists_eq_left]
  rfl

/-- A fixed number of times is a power. -/
theorem language_times_eq (p : Pattern) (n : Nat) (greedy : Bool) :
    (Pattern.times p n (some n) greedy).language = p.language ^ n := by
  ext w
  constructor
  · rintro ⟨m, least, most, hw⟩
    obtain rfl : m = n := Nat.le_antisymm (by simpa using most) least
    exact hw
  · intro hw
    exact ⟨n, Nat.le_refl n, by simp, hw⟩

/-- Once or not at all, whether or not the pattern takes up characters. -/
theorem optional_eq (p : Pattern) : optional p = .times p 0 (some 1) true := by
  unfold optional repeated
  split <;> rfl

theorem language_optional (p : Pattern) : (optional p).language = 1 + p.language := by
  rw [optional_eq]
  ext w
  rw [Language.mem_add]
  constructor
  · rintro ⟨n, -, most, hw⟩
    have few : n = 0 ∨ n = 1 := by simpa [Nat.le_one_iff_eq_zero_or_eq_one] using most
    rcases few with rfl | rfl
    · exact .inl (by simpa using hw)
    · exact .inr (by simpa using hw)
  · rintro (hw | hw)
    · exact ⟨0, Nat.le_refl 0, by simp, by simpa using hw⟩
    · exact ⟨1, Nat.zero_le 1, by simp, by simpa using hw⟩

/-! ## Matches over a text -/

/-- From place `i` of a text to place `j` stands `w`. -/
def Stands (t : Array Char) (i j : Nat) (w : List Char) : Prop :=
  w <+: t.toList.drop i ∧ j = i + w.length

theorem stands_nil : Stands t i j [] ↔ i = j := by
  simp [Stands, eq_comm]

theorem stands_singleton : Stands t i j [c] ↔ t[i]? = some c ∧ j = i + 1 := by
  have first : [c] <+: t.toList.drop i ↔ t[i]? = some c := by
    rw [← Array.getElem?_toList, ← List.head?_drop]
    cases t.toList.drop i <;> simp [List.cons_prefix_cons, eq_comm]
  rw [Stands, first, List.length_singleton]

theorem stands_append : Stands t i k (u ++ v) ↔ ∃ j, Stands t i j u ∧ Stands t j k v := by
  unfold Stands
  constructor
  · rintro ⟨⟨rest, h⟩, rfl⟩
    have later : t.toList.drop (i + u.length) = v ++ rest := by
      rw [← List.drop_drop, ← h, List.append_assoc, List.drop_left]
    refine ⟨i + u.length, ⟨⟨v ++ rest, by rw [← List.append_assoc, h]⟩, rfl⟩,
      ⟨rest, later.symm⟩, ?_⟩
    rw [List.length_append, Nat.add_assoc]
  · rintro ⟨_, ⟨⟨rest, h⟩, rfl⟩, h', rfl⟩
    rw [← List.drop_drop, ← h, List.drop_left] at h'
    rw [← h, List.length_append, Nat.add_assoc]
    exact ⟨(List.prefix_append_right_inj u).mpr h', rfl⟩

theorem repeats_iff (h : ∀ i j, R i j ↔ ∃ w ∈ L, Stands t i j w) (n : Nat) :
    Repeats R n i j ↔ ∃ w ∈ L ^ n, Stands t i j w := by
  induction n generalizing i with
  | zero => simp [Repeats, stands_nil]
  | succ n ih =>
    simp only [Repeats, h, ih, pow_succ', Language.mem_mul]
    constructor
    · rintro ⟨k, ⟨u, hu, first⟩, v, hv, later⟩
      exact ⟨u ++ v, ⟨u, hu, v, hv, rfl⟩, stands_append.mpr ⟨k, first, later⟩⟩
    · rintro ⟨_, ⟨u, hu, v, hv, rfl⟩, stands⟩
      obtain ⟨k, first, later⟩ := stands_append.mp stands
      exact ⟨k, ⟨u, hu, first⟩, v, hv, later⟩

/-- **A match of a pattern without anchors goes over a text of its language.** -/
theorem matches_iff (plain : p.isPlain = true) :
    Matches t p i j ↔ ∃ w ∈ p.language, Stands t i j w := by
  induction p generalizing i j with
  | empty => simp [Matches, language, stands_nil]
  | char set =>
    simp only [Matches, language, mem_oneChar]
    constructor
    · rintro ⟨⟨c, read, hc⟩, rfl⟩
      exact ⟨[c], ⟨c, hc, rfl⟩, stands_singleton.mpr ⟨read, rfl⟩⟩
    · rintro ⟨_, ⟨c, hc, rfl⟩, stands⟩
      obtain ⟨read, rfl⟩ := stands_singleton.mp stands
      exact ⟨⟨c, read, hc⟩, rfl⟩
  | anchor a => exact absurd plain (by simp [isPlain])
  | cat p q hp hq =>
    obtain ⟨plainP, plainQ⟩ := Bool.and_eq_true_iff.mp plain
    simp only [Matches, language, hp plainP, hq plainQ, Language.mem_mul]
    constructor
    · rintro ⟨k, ⟨u, hu, first⟩, v, hv, later⟩
      exact ⟨u ++ v, ⟨u, hu, v, hv, rfl⟩, stands_append.mpr ⟨k, first, later⟩⟩
    · rintro ⟨_, ⟨u, hu, v, hv, rfl⟩, stands⟩
      obtain ⟨k, first, later⟩ := stands_append.mp stands
      exact ⟨k, ⟨u, hu, first⟩, v, hv, later⟩
  | alt p q hp hq =>
    obtain ⟨plainP, plainQ⟩ := Bool.and_eq_true_iff.mp plain
    simp only [Matches, language, hp plainP, hq plainQ, Language.mem_add, or_and_right, exists_or]
  | group _ p hp => exact hp plain
  | times p least most _ hp =>
    simp only [Matches, language, repeats_iff (fun i j => hp plain)]
    constructor
    · rintro ⟨n, enough, within, w, hw, stands⟩
      exact ⟨w, ⟨n, enough, within, hw⟩, stands⟩
    · rintro ⟨w, ⟨n, enough, within, hw⟩, stands⟩
      exact ⟨n, enough, within, w, hw, stands⟩

/-! ## Whole texts -/

theorem holds_textStart (hi : i ≤ t.size) : Anchor.textStart.holds t i = true ↔ i = 0 := by
  cases i with
  | zero => simp [Anchor.holds]
  | succ i =>
    simp [Anchor.holds, Nat.lt_of_succ_le hi]

theorem holds_textEnd : Anchor.textEnd.holds t i = true ↔ t.size ≤ i := by
  simp [Anchor.holds]

/-- **A pattern for the whole text is found in the texts of its language.** -/
theorem found_whole_iff {s : String} (plain : p.isPlain = true) :
    (whole p).found s = true ↔ s.toList ∈ p.language := by
  have size : s.toList.toArray.size = s.length := String.length_toList
  rw [found_iff]
  simp only [whole, Matches, matches_iff plain]
  constructor
  · rintro ⟨i, hi, _, _, ⟨start, rfl⟩, j, ⟨w, hw, first, rfl⟩, finish, rfl⟩
    obtain rfl := (holds_textStart (size.symm ▸ hi)).mp start
    have enough := holds_textEnd.mp finish
    have all : w = s.toList := first.eq_of_length_le (by simpa using enough)
    exact all ▸ hw
  · intro hs
    have stands : Stands s.toList.toArray 0 s.length s.toList :=
      ⟨List.prefix_rfl, by rw [Nat.zero_add, String.length_toList]⟩
    exact ⟨0, Nat.zero_le _, s.length, 0, ⟨(holds_textStart (Nat.zero_le _)).mpr rfl, rfl⟩,
      s.length, ⟨s.toList, hs, stands⟩, holds_textEnd.mpr (Nat.le_of_eq size), rfl⟩

/-- The anchors may stand in one row with the parts between them. -/
theorem found_whole_cat (p q : Pattern) (s : String) :
    (whole (.cat p q)).found s =
      (sequence [.anchor .textStart, p, q, .anchor .textEnd]).found s := by
  refine found_congr (fun t => ?_) s
  funext i k
  show (∃ j, Matches t (.anchor .textStart) i j ∧
    Matches t (.cat (.cat p q) (.anchor .textEnd)) j k) = _
  rw [matches_cat_assoc]
  rfl

end Registrar.Pattern
