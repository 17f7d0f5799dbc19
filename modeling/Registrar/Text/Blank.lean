/-!
# Blank characters

The characters that count as white space: the ones with the property of that name in the
character standard, twenty-five in all. `trim` takes them off both ends of a text.
-/

namespace Registrar.Text

/-- A white-space character. -/
def isBlank (c : Char) : Bool :=
  let n := c.toNat
  (9 ≤ n && n ≤ 13) || n == 0x20 || n == 0x85 || n == 0xa0 || n == 0x1680 ||
    (0x2000 ≤ n && n ≤ 0x200a) || n == 0x2028 || n == 0x2029 || n == 0x202f || n == 0x205f ||
    n == 0x3000

/-- A list of characters without the blanks at its ends. -/
def trimChars (cs : List Char) : List Char :=
  ((cs.dropWhile isBlank).reverse.dropWhile isBlank).reverse

/-- A text without the blanks at its ends. -/
def trim (s : String) : String := String.ofList (trimChars s.toList)

/-- Every character that counts as white space within ASCII text is blank. -/
theorem isBlank_of_isWhitespace {c : Char} (h : c.isWhitespace = true) : isBlank c = true := by
  simp only [Char.isWhitespace, Bool.or_eq_true, decide_eq_true_eq] at h
  rcases h with ((rfl | rfl) | rfl) | rfl <;> decide

@[simp] theorem trimChars_nil : trimChars [] = [] := rfl

/-- Trimming takes away characters and adds none. -/
theorem length_trimChars_le (cs : List Char) : (trimChars cs).length ≤ cs.length := by
  have drop_le : ∀ l : List Char, (l.dropWhile isBlank).length ≤ l.length :=
    fun l => (List.dropWhile_sublist isBlank).length_le
  simp only [trimChars, List.length_reverse]
  exact Nat.le_trans (drop_le _) (by simpa using drop_le cs)

end Registrar.Text
