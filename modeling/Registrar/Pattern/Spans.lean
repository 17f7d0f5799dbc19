import Registrar.Pattern.CharSet

/-!
# Sets of characters as spans

`CharSet.spans` lists the members of a set as spans of code points: in order, with a gap between any
two, and without the surrogates, which are no characters.
-/

namespace Registrar.Pattern

/-- A span of code points, by the first and the last of them. -/
abbrev Span := Nat × Nat

namespace Span

/-- Spans in order of which the first is `first` to `last`, joined where they touch or overlap. -/
def joinFrom (first last : Nat) : List Span → List Span
  | [] => [(first, last)]
  | (a, b) :: rest =>
    if a ≤ last + 1 then joinFrom first (max last b) rest
    else (first, last) :: joinFrom a b rest

/-- Spans put in order and joined where they touch or overlap. -/
def tidy (spans : List Span) : List Span :=
  match spans.mergeSort fun x y => x.1 ≤ y.1 with
  | [] => []
  | (a, b) :: rest => joinFrom a b rest

/-- The code points from `next` on that lie in none of some tidy spans. -/
def gapsFrom (next : Nat) : List Span → List Span
  | [] => if next ≤ 0x10ffff then [(next, 0x10ffff)] else []
  | (a, b) :: rest =>
    if next < a then (next, a - 1) :: gapsFrom (b + 1) rest else gapsFrom (b + 1) rest

/-- The code points that lie in both of two lists of tidy spans: what is in neither of the gaps. -/
def meet (x y : List Span) : List Span := gapsFrom 0 (tidy (gapsFrom 0 x ++ gapsFrom 0 y))

/-- The partners of the code points that lie in some tidy spans; the pairs are in order, too. -/
def partners : List Span → List (Nat × Nat) → List Span
  | _, [] => []
  | spans, (n, m) :: pairs =>
    match spans.dropWhile (·.2 < n) with
    | [] => []
    | (a, b) :: rest =>
      if a ≤ n then (m, m) :: partners ((a, b) :: rest) pairs
      else partners ((a, b) :: rest) pairs

/-- A span without surrogates. -/
def scalars (s : Span) : List Span :=
  (if s.1 ≤ 0xd7ff then [(s.1, min s.2 0xd7ff)] else []) ++
    (if 0xe000 ≤ s.2 then [(max s.1 0xe000, s.2)] else [])

/-- The spans of the runs whose categories are asked for. -/
def ofRuns (wanted : Text.Category → Bool) : List (Nat × Text.Category) → List Span
  | [] => []
  | [(a, k)] => if wanted k then [(a, 0x10ffff)] else []
  | (a, k) :: (b, l) :: rest =>
    if wanted k then (a, b - 1) :: ofRuns wanted ((b, l) :: rest)
    else ofRuns wanted ((b, l) :: rest)

example : joinFrom 97 100 [(99, 102), (103, 104), (110, 110)] = [(97, 104), (110, 110)] := by
  decide
example : gapsFrom 0 [(0, 9), (20, 0x10ffff)] = [(10, 19)] := by decide
example : partners [(97, 98)] [(96, 1), (97, 65), (98, 66), (99, 67)] = [(65, 65), (66, 66)] := by
  decide

/-- White space. -/
def blanks : List Span :=
  [(9, 13), (0x20, 0x20), (0x85, 0x85), (0xa0, 0xa0), (0x1680, 0x1680), (0x2000, 0x200a),
   (0x2028, 0x2029), (0x202f, 0x202f), (0x205f, 0x205f), (0x3000, 0x3000)]

/-- The characters of words. -/
def words : List Span :=
  ofRuns (fun k => k.isLetter || k.isMark || k == .nl || k == .nd || k == .pc)
      Text.Category.table.toList ++
    [(0x200c, 0x200d), (0x24b6, 0x24e9), (0x1f130, 0x1f149), (0x1f150, 0x1f169),
     (0x1f170, 0x1f189)]

/-- The letters `A` to `Z` with those in the other case. -/
def asciiPartners : List (Nat × Nat) :=
  (List.range 26).map (fun n => (n + 65, n + 97)) ++ (List.range 26).map fun n => (n + 97, n + 65)

end Span

namespace CharSet

/-- The code points of a set in spans of any order. -/
def pieces : CharSet → List Span
  | .empty => []
  | .range first last => if first ≤ last then [(first, last)] else []
  | .word => Span.words
  | .blank => Span.blanks
  | .categories ks => Span.ofRuns ks.contains Text.Category.table.toList
  | .union a b => a.pieces ++ b.pieces
  | .inter a b => Span.meet (Span.tidy a.pieces) (Span.tidy b.pieces)
  | .compl a => Span.gapsFrom 0 (Span.tidy a.pieces)
  | .folded a => a.pieces ++ Span.partners (Span.tidy a.pieces) Text.casePartners
  | .foldedAscii a => a.pieces ++ Span.partners (Span.tidy a.pieces) Span.asciiPartners
  | .bytes a => a.pieces

/-- The members of a set. -/
def spans (s : CharSet) : List Span := (Span.tidy s.pieces).flatMap Span.scalars

example : (union (between 'c' 'f') (between 'a' 'd')).spans = [(97, 102)] := by cbv
example : (diff (between 'a' 'z') (single 'k')).spans = [(97, 106), (108, 122)] := by cbv

end CharSet

end Registrar.Pattern
