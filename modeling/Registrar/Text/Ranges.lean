import Registrar.Text.Hex
import Registrar.Text.Split

/-!
# Ranges of code points as text

Tables of characters are kept as text: ranges with blanks between them, each a code point in
hexadecimal digits or two with a hyphen between them. A range with a step after a slash stands for
the single code points that are that far apart.
-/

namespace Registrar.Text

/-- The number that hexadecimal digits write. -/
def readHex (cs : List Char) : Nat := cs.foldl (fun n c => n * 16 + (hexValue? c).getD 0) 0

/-- The first and the last code point of a range. -/
def readBounds (cs : List Char) : Nat × Nat :=
  match splitChars '-' cs with
  | [first, last] => (readHex first, readHex last)
  | _ => (readHex cs, readHex cs)

/-- The single code points from `first` to `last` that are `step` apart. -/
def spread (first last step : Nat) : List (Nat × Nat) :=
  (List.range ((last - first) / step + 1)).map fun k => (first + k * step, first + k * step)

/-- The ranges that one word of a table stands for. -/
def readRange (cs : List Char) : List (Nat × Nat) :=
  match splitChars '/' cs with
  | [range, step] => spread (readBounds range).1 (readBounds range).2 (readHex step)
  | _ => [readBounds cs]

/-- The ranges in the lines of a table. -/
def readRanges (lines : List String) : List (Nat × Nat) :=
  lines.flatMap fun line => (splitChars ' ' line.toList).flatMap readRange

/-- Whether a code point lies in one of some ranges. -/
def inRanges (ranges : List (Nat × Nat)) (n : Nat) : Bool :=
  ranges.any fun r => r.1 ≤ n && n ≤ r.2

example : readRanges ["41-5a 5f", "61-7a"] = [(0x41, 0x5a), (0x5f, 0x5f), (0x61, 0x7a)] := by
  decide
example : readRanges ["41-45/2"] = [(0x41, 0x41), (0x43, 0x43), (0x45, 0x45)] := by decide

end Registrar.Text
