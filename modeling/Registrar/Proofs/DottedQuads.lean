import Registrar.Pattern.Reader
import Registrar.Proofs.Grammar
import Registrar.Proofs.Wholes
import Registrar.Rule.Basic

/-!
# Network addresses

A network address is four numbers with points between them, each of one to three digits and at most
255 (`DottedQuad`). The pattern for it spells the numbers out by their first digits: its branches
overlap, but together they have the texts of one to three digits up to 255, zeros in front
included, and no others (`mem_language_octet`). The pattern is one for the whole text, so nothing
stands before or after the numbers, a line break neither.

* `dottedQuad_iff`: a text is cut at its points to see whether it is an address.
* `Pattern.mem_separated`: powers of a language with a separator are lists of its texts.
* `Pattern.parse?_ipText`: what the text of the pattern is read as.
* **`Test.ip_accepts_dotted_quads`**: the pattern, as it is built and as it is read, and the rule
  that looks for it.
-/

namespace Registrar

variable {s : String}

/-! ## Addresses -/

/-- One to three digits `0` to `9` of a value up to 255. -/
structure IsOctet (part : List Char) : Prop where
  nonempty : 1 ≤ part.length
  short : part.length ≤ 3
  digits : ∀ c ∈ part, c.isDigit = true
  value : Nat.ofDigitChars 10 part 0 ≤ 255

theorem isOctet_iff {part : List Char} : IsOctet part ↔
    1 ≤ part.length ∧ part.length ≤ 3 ∧ part.all Char.isDigit = true ∧
      Nat.ofDigitChars 10 part 0 ≤ 255 := by
  rw [List.all_eq_true]
  exact ⟨fun h => ⟨h.nonempty, h.short, h.digits, h.value⟩,
    fun ⟨nonempty, short, digits, value⟩ => ⟨nonempty, short, digits, value⟩⟩

instance (part : List Char) : Decidable (IsOctet part) := decidable_of_iff _ isOctet_iff.symm

/-- Four octets with a single point between any two of them, and nothing else. -/
def DottedQuad (s : String) : Prop :=
  ∃ parts : List (List Char), parts.length = 4 ∧ (∀ part ∈ parts, IsOctet part) ∧
    s.toList = ['.'].intercalate parts

/-- The parts of an address are those that it is cut into at its points. -/
theorem dottedQuad_iff : DottedQuad s ↔ (Text.splitChars '.' s.toList).length = 4 ∧
    ∀ part ∈ Text.splitChars '.' s.toList, IsOctet part := by
  constructor
  · rintro ⟨parts, four, octets, joined⟩
    have cut : Text.splitChars '.' s.toList = parts := by
      refine Text.splitChars_eq_iff.mpr ⟨List.ne_nil_of_length_pos (by omega), ?_, joined.symm⟩
      intro part hp point
      exact absurd ((octets part hp).digits _ point) (by decide)
    rw [cut]
    exact ⟨four, octets⟩
  · rintro ⟨four, octets⟩
    exact ⟨_, four, octets, (Text.splitChars_eq_iff.mp rfl).2.2.symm⟩

instance (s : String) : Decidable (DottedQuad s) := decidable_of_iff _ dottedQuad_iff.symm

example : DottedQuad "192.168.001.0" := by decide
example : ¬DottedQuad "1.2.3.256" ∧ ¬DottedQuad "1.2.3.4\n" := by decide

namespace Pattern

open CharSet (between single unions)

/-! ## Octets -/

theorem language_octet : octet.language =
    oneChar (single '2') * oneChar (single '5') * oneChar (between '0' '5') +
      (oneChar (single '2') * (oneChar (between '0' '4') * oneChar (between '0' '9')) +
        (1 + oneChar (unions [single '0', single '1'])) *
          (oneChar (between '0' '9') * (1 + oneChar (between '0' '9')))) := by
  have shape : octet = .alt
      (.cat (.cat (.char (single '2')) (.char (single '5'))) (.char (between '0' '5')))
      (.alt (.cat (.char (single '2')) (.cat (.char (between '0' '4')) decimalDigit))
        (.cat (optional (oneOf [single '0', single '1']))
          (.cat decimalDigit (optional decimalDigit)))) := rfl
  simp only [shape, language, language_optional, decimalDigit, oneOf]

/-- The branches for an octet, with what is optional left out or put in. -/
theorem mem_octet_iff {w : List Char} : w ∈ octet.language ↔
    w ∈ oneChar (single '2') * (oneChar (single '5') * oneChar (between '0' '5')) ∨
    w ∈ oneChar (single '2') * (oneChar (between '0' '4') * oneChar (between '0' '9')) ∨
    w ∈ oneChar (between '0' '9') ∨
    w ∈ oneChar (unions [single '0', single '1']) * oneChar (between '0' '9') ∨
    w ∈ oneChar (between '0' '9') * oneChar (between '0' '9') ∨
    w ∈ oneChar (unions [single '0', single '1']) *
      (oneChar (between '0' '9') * oneChar (between '0' '9')) := by
  simp only [language_octet, mul_assoc, add_mul, mul_add, one_mul, mul_one, Language.mem_add,
    or_assoc]

theorem contains_zeroOrOne {c : Char} : (unions [single '0', single '1']).contains c = true ↔
    c = '0' ∨ c = '1' := by
  simp [unions, CharSet.contains]

/-- **The branches for an octet have the texts of one to three digits up to 255.** The digits are
compared by their code points, which are 48 to 57. -/
theorem mem_language_octet : ∀ w : List Char, w ∈ octet.language ↔ IsOctet w
  | [] => by simp [mem_octet_iff, isOctet_iff]
  | [a] => by
    have branches : [a] ∈ octet.language ↔ 48 ≤ a.toNat ∧ a.toNat ≤ 57 := by
      simp [mem_octet_iff]
    have digits : IsOctet [a] ↔ (48 ≤ a.toNat ∧ a.toNat ≤ 57) ∧ a.toNat - 48 ≤ 255 := by
      simp [isOctet_iff, Char.isDigit_iff_toNat, Nat.ofDigitChars_cons]
    rw [branches, digits]
    omega
  | [a, b] => by
    have branches : [a, b] ∈ octet.language ↔
        (a.toNat = 48 ∨ a.toNat = 49) ∧ (48 ≤ b.toNat ∧ b.toNat ≤ 57) ∨
        (48 ≤ a.toNat ∧ a.toNat ≤ 57) ∧ 48 ≤ b.toNat ∧ b.toNat ≤ 57 := by
      simp [mem_octet_iff, contains_zeroOrOne, ← Char.toNat_inj]
    have digits : IsOctet [a, b] ↔
        ((48 ≤ a.toNat ∧ a.toNat ≤ 57) ∧ 48 ≤ b.toNat ∧ b.toNat ≤ 57) ∧
          10 * (a.toNat - 48) + (b.toNat - 48) ≤ 255 := by
      simp [isOctet_iff, Char.isDigit_iff_toNat, Nat.ofDigitChars_cons]
    rw [branches, digits]
    omega
  | [a, b, c] => by
    have branches : [a, b, c] ∈ octet.language ↔
        a.toNat = 50 ∧ b.toNat = 53 ∧ 48 ≤ c.toNat ∧ c.toNat ≤ 53 ∨
        a.toNat = 50 ∧ (48 ≤ b.toNat ∧ b.toNat ≤ 52) ∧ 48 ≤ c.toNat ∧ c.toNat ≤ 57 ∨
        (a.toNat = 48 ∨ a.toNat = 49) ∧ (48 ≤ b.toNat ∧ b.toNat ≤ 57) ∧
          48 ≤ c.toNat ∧ c.toNat ≤ 57 := by
      simp [mem_octet_iff, contains_zeroOrOne, ← Char.toNat_inj]
    have digits : IsOctet [a, b, c] ↔
        ((48 ≤ a.toNat ∧ a.toNat ≤ 57) ∧ (48 ≤ b.toNat ∧ b.toNat ≤ 57) ∧
          48 ≤ c.toNat ∧ c.toNat ≤ 57) ∧
          10 * (10 * (a.toNat - 48) + (b.toNat - 48)) + (c.toNat - 48) ≤ 255 := by
      simp [isOctet_iff, Char.isDigit_iff_toNat, Nat.ofDigitChars_cons]
    rw [branches, digits]
    omega
  | a :: b :: c :: d :: rest => by simp [mem_octet_iff, isOctet_iff]

/-! ## Separated texts -/

/-- Some texts of a language, each with a separator behind it, and one more make a list of its texts
joined by separators. -/
theorem mem_separated {α : Type} {L : Language α} {sep : α} (n : Nat) (w : List α) :
    w ∈ (L * {[sep]}) ^ n * L ↔
      ∃ parts : List (List α), parts.length = n + 1 ∧ (∀ part ∈ parts, part ∈ L) ∧
        w = [sep].intercalate parts := by
  induction n generalizing w with
  | zero =>
    rw [pow_zero, one_mul]
    constructor
    · intro hw
      exact ⟨[w], rfl, by simpa using hw, by simp⟩
    · rintro ⟨parts, one, inside, rfl⟩
      obtain ⟨part, rfl⟩ := List.length_eq_one_iff.mp one
      simpa using inside
  | succ n ih =>
    rw [pow_succ', mul_assoc, mul_assoc, Language.mem_mul]
    constructor
    · rintro ⟨part, hpart, _, ⟨_, rfl, v, hv, rfl⟩, rfl⟩
      obtain ⟨parts, length, inside, rfl⟩ := (ih v).mp hv
      refine ⟨part :: parts, by rw [List.length_cons, length],
        List.forall_mem_cons.mpr ⟨hpart, inside⟩, ?_⟩
      cases parts with
      | nil => exact absurd length (by simp)
      | cons next later => simp [List.intercalate_cons_cons]
    · rintro ⟨parts, length, inside, rfl⟩
      obtain ⟨part, next, later, rfl⟩ : ∃ part next later, parts = part :: next :: later := by
        match parts, length with
        | part :: next :: later, _ => exact ⟨part, next, later, rfl⟩
      obtain ⟨hpart, inside⟩ := List.forall_mem_cons.mp inside
      refine ⟨part, hpart, _, ⟨[sep], rfl, _, (ih _).mpr ⟨next :: later, ?_, inside, rfl⟩, rfl⟩, ?_⟩
      · simpa using length
      · simp [List.intercalate_cons_cons]

/-! ## The pattern as it is built and as it is written -/

/-- Three octets with points behind them and one more octet, however they are put in groups. -/
theorem found_quads_iff {part last : Pattern} (hp : part.isPlain = true) (hl : last.isPlain = true)
    (pointed : part.language = octet.language * {['.']})
    (bare : last.language = octet.language) :
    (whole (.cat (.times part 3 (some 3) true) last)).found s = true ↔ DottedQuad s := by
  have plain : (Pattern.cat (.times part 3 (some 3) true) last).isPlain = true :=
    Bool.and_eq_true_iff.mpr ⟨hp, hl⟩
  rw [found_whole_iff plain, language, language_times_eq, pointed, bare, mem_separated]
  simp only [mem_language_octet]
  rfl

theorem found_ip_iff : ip.found s = true ↔ DottedQuad s := by
  refine found_quads_iff rfl rfl ?_ rfl
  rw [language, ← oneChar_single]
  rfl

/-- The pattern in the language of patterns. -/
def ipText : String :=
  "^(?:(?:25[0-5]|2[0-4][0-9]|[01]?[0-9][0-9]?)\\.)\x7b3\x7d" ++
    "(?:25[0-5]|2[0-4][0-9]|[01]?[0-9][0-9]?)$"

/-- The branches for an octet as they are read: in a group, and without parts in parts. -/
def readOctet : Pattern :=
  .group false <| choice
    [sequence [.char (single '2'), .char (single '5'), .char (between '0' '5')],
      sequence [.char (single '2'), .char (between '0' '4'), decimalDigit],
      sequence [optional (oneOf [single '0', single '1']), decimalDigit, optional decimalDigit]]

/-- The pattern as it is read. -/
def readIp : Pattern :=
  sequence
    [.anchor .textStart, exactly (.group false (.cat readOctet (.char (single '.')))) 3, readOctet,
      .anchor .textEnd]

theorem parse?_ipText : parse? ipText = some readIp := by cbv

theorem language_readOctet : readOctet.language = octet.language := by
  rw [language_octet]
  simp only [readOctet, choice, sequence, language, language_optional, decimalDigit, oneOf,
    mul_assoc]

theorem found_readIp_iff : readIp.found s = true ↔ DottedQuad s := by
  rw [readIp, ← found_whole_cat]
  refine found_quads_iff rfl rfl ?_ language_readOctet
  rw [language, language, language_readOctet, language, oneChar_single]

end Pattern

/-- **The address rule accepts the dotted quads and nothing else**: so does the pattern that it
looks for, as it is built and as it is read from its text. -/
theorem Test.ip_accepts_dotted_quads :
    (∀ s, Pattern.ip.found s = true ↔ DottedQuad s) ∧
    (∀ v, Test.ip.holds v = true ↔ ∃ s, v = .string s ∧ DottedQuad s) ∧
    ∃ p, Pattern.parse? Pattern.ipText = some p ∧ ∀ s, p.found s = true ↔ DottedQuad s := by
  refine ⟨fun s => Pattern.found_ip_iff, fun v => ?_,
    _, Pattern.parse?_ipText, fun s => Pattern.found_readIp_iff⟩
  unfold Test.holds Test.finds
  cases v with
  | string s => simp [Value.text?, Pattern.found_ip_iff]
  | _ => simp [Value.text?]

end Registrar
