import Mathlib.Data.List.TakeWhile
import Registrar.Http.Server

/-!
# Keys as texts

A key is shown as a text, and the text in a path is read as a key by the kind of the key's field. A
text stands for itself; a whole number is written in decimal, with a sign if it is below zero.

* `Decimal.int64?_toString`, `Decimal.uint64?_toString`: a whole number is read as it was written.
* **`Http.Server.parseId_display`**: so is a key.
-/

namespace Registrar

/-! ## Digits -/

namespace Decimal

theorem le_ofDigitChars : ∀ (cs : List Char) (acc : Nat), acc ≤ Nat.ofDigitChars 10 cs acc
  | [], acc => Nat.le_refl acc
  | c :: cs, acc => by
    rw [Nat.ofDigitChars_cons]
    have rest := le_ofDigitChars cs (10 * acc + (c.toNat - '0'.toNat))
    omega

/-- Digits are read as the number they write, where it is within the bound. -/
theorem readDigits_eq_ok {bound : Nat} (excess : Refusal) : ∀ {cs : List Char} {acc : Nat},
    (∀ c ∈ cs, c.isDigit = true) → Nat.ofDigitChars 10 cs acc ≤ bound →
      readDigits bound excess acc cs = .ok (Nat.ofDigitChars 10 cs acc)
  | [], acc, _, _ => rfl
  | c :: cs, acc, digits, within => by
    obtain ⟨digit, digits⟩ := List.forall_mem_cons.mp digits
    rw [Nat.ofDigitChars_cons] at within ⊢
    have value : acc * 10 + (c.toNat - 48) = 10 * acc + (c.toNat - '0'.toNat) := by
      rw [Nat.mul_comm]
      rfl
    -- digits that follow never lower the value, so the bound holds at every digit
    have below := le_ofDigitChars cs (10 * acc + (c.toNat - '0'.toNat))
    unfold readDigits digit?
    rw [if_pos digit]
    simp only [value]
    rw [if_pos (Nat.le_trans below within)]
    exact readDigits_eq_ok excess digits within

theorem readDigits_toDigits {bound n : Nat} (excess : Refusal) (h : n ≤ bound) :
    readDigits bound excess 0 (Nat.toDigits 10 n) = .ok n := by
  have digits : ∀ c ∈ Nat.toDigits 10 n, c.isDigit = true := fun c hc =>
    Nat.isDigit_of_mem_toDigits (by decide) (by decide) hc
  have value : Nat.ofDigitChars 10 (Nat.toDigits 10 n) 0 = n :=
    Nat.ofDigitChars_toDigits (by decide) (by decide)
  have read := readDigits_eq_ok excess digits (value.symm ▸ h)
  rwa [value] at read

/-- A number is written as some digits. -/
theorem exists_toDigits_eq (n : Nat) : ∃ c cs, Nat.toDigits 10 n = c :: cs ∧ c.isDigit = true := by
  cases h : Nat.toDigits 10 n with
  | nil => exact absurd h Nat.toDigits_ne_nil
  | cons c cs =>
    have digit : c ∈ Nat.toDigits 10 n := by
      rw [h]
      exact List.mem_cons_self
    exact ⟨c, cs, rfl, Nat.isDigit_of_mem_toDigits (by decide) (by decide) digit⟩

theorem readNat_toDigits {bound n : Nat} (h : n ≤ bound) :
    readNat bound (Nat.toDigits 10 n) = .ok n := by
  have read := readDigits_toDigits .high h
  obtain ⟨c, cs, digits, digit⟩ := exists_toDigits_eq n
  have unsigned : c ≠ '+' := by
    rintro rfl
    exact absurd digit (by decide)
  rw [digits] at read ⊢
  unfold readNat
  split
  · rename_i none
    exact absurd none (by simp)
  · rename_i plus
    exact absurd (List.cons.inj plus).1 unsigned
  · rename_i plus
    exact absurd (List.cons.inj plus).1 unsigned
  · exact read

theorem toList_toString (n : Nat) : (toString n).toList = Nat.toDigits 10 n := Nat.toList_repr

/-- **An unsigned number is read as it was written.** -/
theorem uint64?_toString (n : UInt64) : uint64? (toString n.toNat) = some n := by
  have within : n.toNat ≤ maxUInt64 := by
    have := n.toNat_lt
    unfold maxUInt64
    omega
  unfold uint64? readUInt64
  rw [toList_toString, readNat_toDigits within]
  exact congrArg some UInt64.ofNat_toNat

theorem readInt64_toDigits {n : Nat} (h : n ≤ maxInt64) :
    readInt64 (Nat.toDigits 10 n) = .ok (Int64.ofNat n) := by
  have read := readNat_toDigits h
  obtain ⟨c, cs, digits, digit⟩ := exists_toDigits_eq n
  have unsigned : c ≠ '-' := by
    rintro rfl
    exact absurd digit (by decide)
  rw [digits] at read ⊢
  unfold readInt64
  split
  · rename_i minus
    exact absurd (List.cons.inj minus).1 unsigned
  · rename_i minus
    exact absurd (List.cons.inj minus).1 unsigned
  · rw [read]
    rfl

theorem readInt64_minus {n : Nat} (h : n ≤ maxInt64 + 1) :
    readInt64 ('-' :: Nat.toDigits 10 n) = .ok (Int64.ofInt (-n)) := by
  have read := readDigits_toDigits .low h
  obtain ⟨c, cs, digits, -⟩ := exists_toDigits_eq n
  rw [digits] at read ⊢
  unfold readInt64
  simp only [read]
  rfl

theorem toList_toString_negSucc (n : Nat) :
    (toString (Int.negSucc n)).toList = '-' :: Nat.toDigits 10 (n + 1) := by
  show ("-" ++ (n + 1).repr).toList = _
  rw [String.toList_append, Nat.toList_repr]
  rfl

/-- **A signed number is read as it was written.** -/
theorem int64?_toString (n : Int64) : int64? (toString n.toInt) = some n := by
  have least := Int64.le_toInt n
  have greatest := Int64.toInt_lt n
  have whole := Int64.ofInt_toInt n
  unfold int64?
  cases h : n.toInt with
  | ofNat m =>
    rw [h] at greatest whole
    have within : m ≤ maxInt64 := by
      have below : (m : Int) < 2 ^ 63 := greatest
      unfold maxInt64
      omega
    have text : (toString (Int.ofNat m)).toList = Nat.toDigits 10 m := toList_toString m
    rw [text, readInt64_toDigits within, ← whole]
    rfl
  | negSucc m =>
    rw [h] at least whole
    have within : m + 1 ≤ maxInt64 + 1 := by
      unfold maxInt64
      omega
    rw [toList_toString_negSucc, readInt64_minus within, ← whole]
    rfl

end Decimal

/-! ## Texts without blanks -/

namespace Text

theorem isBlank_eq_false_of_isDigit {c : Char} (h : c.isDigit = true) : isBlank c = false := by
  have range : 48 ≤ c.toNat ∧ c.toNat ≤ 57 := by
    simpa [Char.isDigit, UInt32.le_iff_toNat_le] using h
  simp only [isBlank, Bool.or_eq_false_iff, Bool.and_eq_false_iff, decide_eq_false_iff_not,
    beq_eq_false_iff_ne]
  omega

/-- What has no blanks is not trimmed. -/
theorem trim_eq_self {s : String} (h : ∀ c ∈ s.toList, isBlank c = false) : trim s = s := by
  have kept : ∀ cs : List Char, (∀ c ∈ cs, isBlank c = false) → cs.dropWhile isBlank = cs := by
    intro cs clean
    rw [List.dropWhile_eq_self_iff]
    intro some
    simp [clean _ (List.getElem_mem some)]
  unfold trim trimChars
  rw [kept _ h, kept _ (by simpa using h), List.reverse_reverse, String.ofList_toList]

theorem trim_toString_nat (n : Nat) : trim (toString n) = toString n := by
  refine trim_eq_self fun c hc => ?_
  rw [Decimal.toList_toString] at hc
  exact isBlank_eq_false_of_isDigit (Nat.isDigit_of_mem_toDigits (by decide) (by decide) hc)

theorem trim_toString_int : ∀ z : Int, trim (toString z) = toString z
  | .ofNat n => trim_toString_nat n
  | .negSucc n => by
    refine trim_eq_self fun c hc => ?_
    rw [Decimal.toList_toString_negSucc] at hc
    rcases List.mem_cons.mp hc with rfl | hc
    · decide
    · exact isBlank_eq_false_of_isDigit (Nat.isDigit_of_mem_toDigits (by decide) (by decide) hc)

end Text

/-! ## Keys -/

namespace Value

theorem display_int (n : Int64) : display (.int n) = toString n.toInt := by
  show Json.numberText (Number.ofInt64 n) = _
  unfold Number.ofInt64
  split
  · rfl
  · rename_i notBelow
    have nonneg : 0 ≤ n := Int64.not_lt.mp notBelow
    show toString n.toUInt64.toNat = _
    rw [Int64.toNat_toUInt64_of_le nonneg, Int64.toInt_eq_toNatClampNeg nonneg]
    rfl

/-- A whole number or a text is read as it is shown. -/
theorem parse?_display {k : Kind} {v : Value} (hk : Descriptor.isKeyKind k = true)
    (hv : v.HasKind k) : parse? k v.display = some v := by
  cases k <;> cases v <;> first | exact hv.elim | exact absurd hk (by decide) | skip
  case string.string text => rfl
  case int.int n =>
    unfold parse?
    simp only
    rw [display_int, Text.trim_toString_int, Decimal.int64?_toString]
    rfl
  case uint.uint n =>
    show (Decimal.uint64? (Text.trim (toString n.toNat))).map Value.uint = _
    rw [Text.trim_toString_nat, Decimal.uint64?_toString]
    rfl

end Value

namespace Http.Server

/-- The text of a path is read by the kind of the key. -/
theorem parseId_eq (s : Schema) (text : String) : parseId s text =
    match Value.parse? s.keyField.kind text with
    | some id => .ok id
    | none => .error (.badRequest (.invalidId text)) := by
  unfold parseId
  split
  · rename_i kind
    rw [kind]
    simp only [Value.parse?]
  · rfl

/-- **A key is read as it is shown.** -/
theorem parseId_display {s : Schema} {id : Value}
    (hk : Descriptor.isKeyKind s.keyField.kind = true) (hid : id.HasKind s.keyField.kind) :
    parseId s id.display = .ok id := by
  rw [parseId_eq, Value.parse?_display hk hid]

end Http.Server

end Registrar
