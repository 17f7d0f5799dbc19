/-!
# Splitting text

A text is cut at every occurrence of a separator. There is one part more than there are
separators, and the parts joined with the separator give the text back (`intercalate_splitChars`).
-/

namespace Registrar.Text

/-- Cut a list of characters at a separator. -/
def splitChars (sep : Char) : List Char → List (List Char)
  | [] => [[]]
  | c :: cs =>
    if c = sep then [] :: splitChars sep cs
    else
      match splitChars sep cs with
      | part :: rest => (c :: part) :: rest
      | [] => [[c]]

/-- Cut a text at a separator. -/
def split (sep : Char) (s : String) : List String := (splitChars sep s.toList).map String.ofList

theorem splitChars_ne_nil (sep : Char) (cs : List Char) : splitChars sep cs ≠ [] := by
  cases cs with
  | nil => simp [splitChars]
  | cons c cs =>
    simp only [splitChars]
    split
    · simp
    · split <;> simp

/-- Nothing is lost by cutting. -/
theorem intercalate_splitChars (sep : Char) (cs : List Char) :
    [sep].intercalate (splitChars sep cs) = cs := by
  induction cs with
  | nil => simp [splitChars, List.intercalate]
  | cons c cs ih =>
    simp only [splitChars]
    split
    · rename_i hc
      subst hc
      cases h : splitChars c cs with
      | nil => exact absurd h (splitChars_ne_nil c cs)
      | cons part rest =>
        rw [h] at ih
        simp only [List.intercalate] at ih ⊢
        simp [ih]
    · cases h : splitChars sep cs with
      | nil => exact absurd h (splitChars_ne_nil sep cs)
      | cons part rest =>
        rw [h] at ih
        cases rest with
        | nil => simpa [List.intercalate] using ih
        | cons next rest =>
          simp only [List.intercalate] at ih ⊢
          simp at ih ⊢
          exact ih

end Registrar.Text
