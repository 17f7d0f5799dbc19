import Registrar.Text.Category
import Registrar.Text.Fold
import Registrar.Text.Blank

/-!
# Sets of characters

A class in a pattern denotes a set of characters. `CharSet` keeps how a set was put together, and
`contains` decides membership; unions, intersections and complements mean what their names say
(`contains_union`, `contains_inter`, `contains_compl`), and `folded` closes a set under differences
in case.
-/

namespace Registrar.Pattern

/-- A set of characters. -/
inductive CharSet where
  | empty
  /-- The code points from `first` to `last`. -/
  | range (first last : Nat)
  /-- The characters of words. -/
  | word
  /-- White space. -/
  | blank
  /-- The characters of some general categories. -/
  | categories (ks : List Text.Category)
  | union (a b : CharSet)
  | inter (a b : CharSet)
  | compl (a : CharSet)
  /-- The set with all letters that differ from a member in case alone. -/
  | folded (a : CharSet)
  /-- The set with the other case of each of its letters `A` to `Z`. -/
  | foldedAscii (a : CharSet)
  /-- The set as one of bytes. It has the same members, but is another set where two patterns are
  compared for what they have in common. -/
  | bytes (a : CharSet)
  deriving DecidableEq

namespace CharSet

/-- The other case of a letter `A` to `Z`. -/
def asciiVariant (c : Char) : Char :=
  if c.isUpper then c.toLower else if c.isLower then c.toUpper else c

/-- Whether a character belongs to a set. -/
def contains : CharSet → Char → Bool
  | .empty, _ => false
  | .range first last, c => first ≤ c.toNat && c.toNat ≤ last
  | .word, c => Text.isWord c
  | .blank, c => Text.isBlank c
  | .categories ks, c => ks.contains (Text.Category.of c)
  | .union a b, c => contains a c || contains b c
  | .inter a b, c => contains a c && contains b c
  | .compl a, c => !contains a c
  | .folded a, c => contains a c || (Text.variants c).any (contains a)
  | .foldedAscii a, c => contains a c || contains a (asciiVariant c)
  | .bytes a, c => contains a c

@[simp] theorem contains_range (first last : Nat) (c : Char) :
    (range first last).contains c = (decide (first ≤ c.toNat) && decide (c.toNat ≤ last)) := rfl

@[simp] theorem contains_union (a b : CharSet) (c : Char) :
    (union a b).contains c = (a.contains c || b.contains c) := rfl

@[simp] theorem contains_inter (a b : CharSet) (c : Char) :
    (inter a b).contains c = (a.contains c && b.contains c) := rfl

@[simp] theorem contains_compl (a : CharSet) (c : Char) :
    (compl a).contains c = !a.contains c := rfl

@[simp] theorem contains_bytes (a : CharSet) (c : Char) : a.bytes.contains c = a.contains c := rfl

/-- The set of one character. -/
def single (c : Char) : CharSet := .range c.toNat c.toNat

/-- The characters from `first` to `last`. -/
def between (first last : Char) : CharSet := .range first.toNat last.toNat

/-- The union of some sets. -/
def unions (sets : List CharSet) : CharSet := sets.foldr .union .empty

/-- The members of a text. -/
def ofChars (s : String) : CharSet := unions (s.toList.map single)

/-- The characters of `a` that are not in `b`. -/
def diff (a b : CharSet) : CharSet := .inter a (.compl b)

/-- The characters of exactly one of two sets. -/
def symmDiff (a b : CharSet) : CharSet := .diff (.union a b) (.inter a b)

/-- Every character. -/
def any : CharSet := .compl .empty

/-- The digits of all scripts. -/
def digit : CharSet := .categories [.nd]

/-- The digits `0` to `9`. -/
def asciiDigit : CharSet := between '0' '9'

/-- The characters of words among the first 128. -/
def asciiWord : CharSet :=
  unions [between '0' '9', between 'A' 'Z', between 'a' 'z', single '_']

/-- White space among the first 128 characters. -/
def asciiBlank : CharSet := unions [.range 9 13, single ' ']

/-- Whether a set leaves out every byte value above 127. -/
def isAscii (a : CharSet) : Bool :=
  (List.range 128).all fun n => !a.contains (Char.ofNat (n + 128))

/-- The set that a bracketed name stands for, among the first 128 characters. -/
def posix? : String → Option CharSet
  | "alnum" => some (unions [between '0' '9', between 'A' 'Z', between 'a' 'z'])
  | "alpha" => some (unions [between 'A' 'Z', between 'a' 'z'])
  | "ascii" => some (.range 0 127)
  | "blank" => some (unions [single '\t', single ' '])
  | "cntrl" => some (unions [.range 0 31, .range 127 127])
  | "digit" => some asciiDigit
  | "graph" => some (between '!' '~')
  | "lower" => some (between 'a' 'z')
  | "print" => some (between ' ' '~')
  | "punct" => some (unions [between '!' '/', between ':' '@', between '[' '\x60',
      .range 0x7b 0x7e])
  | "space" => some asciiBlank
  | "upper" => some (between 'A' 'Z')
  | "word" => some asciiWord
  | "xdigit" => some (unions [between '0' '9', between 'A' 'F', between 'a' 'f'])
  | _ => none

end CharSet

end Registrar.Pattern
