import Registrar.Text.Property

/-!
# Letters and numbers in names

A name is written with letters and numbers of all scripts. It may use the characters that the
tables of categories and properties know, and those of the edition of the character standard that
follows them.
-/

namespace Registrar.Text

/-- The code points of the letters that the following edition adds. -/
def addedLetters : List String :=
  ["88f c5c cdc a7ce-a7cf a7d2 a7d4 a7f1 10940-10959 10ec5-10ec7 10efa-10efb 11b60-11b67",
   "11db0-11ddb 16ea0-16eb8 16ebb-16ed3 16ff2-16ff6 187f8-187ff 18d09-18d1e 18d80-18df2",
   "1e6c0-1e6de 1e6e0-1e6f5 1e6fe-1e6ff 2b73a-2b73f 2cea2-2cead 323b0-33479"]

/-- The code points of the numbers that the following edition adds. -/
def addedNumbers : List String := ["11de0-11de9 16ff4-16ff6"]

/-- A letter, or a mark or sign that words are written with. -/
def isAlphabetic (c : Char) : Bool :=
  (Property.ofName? "alphabetic").any (·.holds c) || inRanges (readRanges addedLetters) c.toNat

/-- A number of any kind. -/
def isNumeric (c : Char) : Bool :=
  (Category.of c).isNumber || inRanges (readRanges addedNumbers) c.toNat

end Registrar.Text
