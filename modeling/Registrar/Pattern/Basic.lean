import Registrar.Pattern.CharSet

/-!
# Patterns and matching

A pattern describes texts: characters of a set, one pattern after another, a choice, and
repetition; an anchor asks something of the place it stands at and takes up no characters.

Matching follows sets of places. A place is an index between two characters, and `Pattern.step p t`
sends a set of places to the places where a match of `p` that begins at one of them can end.
Repetition takes the places reached so far and goes on from the fresh ones only; there are no more
places than one past the length of the text, so this ends. `Pattern.found p s` says that `p`
matches somewhere in `s`.

Out of scope: where in a text a match lies, and what its groups hold.
-/

namespace Registrar

/-- A condition on a place of a text. -/
inductive Anchor where
  | textStart
  | textEnd
  /-- At the start, or after a line feed. -/
  | lineStart
  /-- At the end, or before a line feed. -/
  | lineEnd
  /-- As `lineStart`, where a carriage return alone and the pair of both end a line, too. -/
  | crlfStart
  /-- As `lineEnd`, where a carriage return alone and the pair of both end a line, too. -/
  | crlfEnd
  /-- Between a character of words and something else. -/
  | wordEdge (words : Pattern.CharSet)
  | notWordEdge (words : Pattern.CharSet)
  | wordStart (words : Pattern.CharSet)
  | wordEnd (words : Pattern.CharSet)
  /-- No character of words comes before. -/
  | wordStartHalf (words : Pattern.CharSet)
  /-- No character of words comes after. -/
  | wordEndHalf (words : Pattern.CharSet)
  deriving DecidableEq

/-- A regular expression. -/
inductive Pattern where
  /-- The empty text. -/
  | empty
  /-- One character of a set. -/
  | char (set : Pattern.CharSet)
  | anchor (a : Anchor)
  /-- One pattern after another. -/
  | cat (p q : Pattern)
  /-- Either pattern. -/
  | alt (p q : Pattern)
  /-- A pattern in parentheses; `kept` says that the place of its match is kept. -/
  | group (kept : Bool) (p : Pattern)
  /-- At least `least` times, and at most `most` times if that is a number. A `greedy` repetition
  goes on as long as it can; this decides which of several matches is taken, not whether there is
  one. -/
  | times (p : Pattern) (least : Nat) (most : Option Nat) (greedy : Bool)

instance : Inhabited Pattern := ⟨.empty⟩

/-- Whether an anchor holds at place `i` of a text. -/
def Anchor.holds (a : Anchor) (t : Array Char) (i : Nat) : Bool :=
  let before : Option Char := if i = 0 then none else t[i - 1]?
  let after : Option Char := t[i]?
  let among (words : Pattern.CharSet) (c : Option Char) : Bool := c.any words.contains
  match a with
  | .textStart => before.isNone
  | .textEnd => after.isNone
  | .lineStart => before.all (· == '\n')
  | .lineEnd => after.all (· == '\n')
  | .crlfStart =>
    before.all fun c => c == '\n' || (c == '\r' && after != some '\n')
  | .crlfEnd =>
    after.all fun c => c == '\r' || (c == '\n' && before != some '\r')
  | .wordEdge words => among words before != among words after
  | .notWordEdge words => among words before == among words after
  | .wordStart words => !among words before && among words after
  | .wordEnd words => among words before && !among words after
  | .wordStartHalf words => !among words before
  | .wordEndHalf words => !among words after

namespace Pattern

/-- The places of two sets. -/
def join (a b : List Nat) : List Nat := a ++ b.filter (!a.contains ·)

/-- The places seen and all that can be reached from `frontier` by repeating `f`, up to a number of
rounds. Each round goes on from the places that are new. -/
def reach (f : List Nat → List Nat) : Nat → List Nat → List Nat → List Nat
  | 0, seen, _ => seen
  | rounds + 1, seen, frontier =>
    match (f frontier).filter (!seen.contains ·) with
    | [] => seen
    | fresh => reach f rounds (seen ++ fresh) fresh

/-- Whether two lists without repetitions hold the same places. -/
def samePlaces (a b : List Nat) : Bool := a.length == b.length && a.all b.contains

/-- Repeat `f` exactly `n` times. Once it leads to the places it comes from, it always will. -/
def iterate (f : List Nat → List Nat) : Nat → List Nat → List Nat
  | 0, places => places
  | n + 1, places =>
    let next := f places
    if samePlaces next places then next else iterate f n next

/-- The places where a match that begins at one of `places` can end. -/
def step (t : Array Char) : Pattern → List Nat → List Nat
  | .empty, places => places
  | .char set, places =>
    places.filterMap fun i => if t[i]?.any set.contains then some (i + 1) else none
  | .anchor a, places => places.filter (a.holds t)
  | .cat p q, places => step t q (step t p places)
  | .alt p q, places => join (step t p places) (step t q places)
  | .group _ p, places => step t p places
  | .times p least most _, places =>
    let start := iterate (step t p) least places
    reach (step t p) (most.elim (t.size + 1) (· - least)) start start

/-- Whether a pattern matches somewhere in a text. -/
def found (p : Pattern) (s : String) : Bool :=
  let t := s.toList.toArray
  !(step t p (List.range (t.size + 1))).isEmpty

/-! ## Building patterns -/

/-- The patterns of a list, one after another. -/
def sequence : List Pattern → Pattern
  | [] => .empty
  | [p] => p
  | p :: rest => .cat p (sequence rest)

/-- Any one of the patterns of a list. -/
def choice : List Pattern → Pattern
  | [] => .char .empty
  | [p] => p
  | p :: rest => .alt p (choice rest)

/-- Whether a pattern takes up no characters wherever it matches. -/
def isNull : Pattern → Bool
  | .empty | .anchor _ => true
  | .char _ => false
  | .cat p q | .alt p q => p.isNull && q.isNull
  | .group _ p => p.isNull
  | .times p _ most _ => p.isNull || most == some 0

/-- A repeated pattern. Of one that takes up no characters, more than one match in a row is as good
as one. -/
def repeated (p : Pattern) (least : Nat) (most : Option Nat) (greedy : Bool) : Pattern :=
  if p.isNull then .times p (min least 1) (some (min (most.getD 1) 1)) greedy
  else .times p least most greedy

/-- Exactly `n` times. -/
def exactly (p : Pattern) (n : Nat) : Pattern := repeated p n (some n) true

/-- Once or not at all. -/
def optional (p : Pattern) : Pattern := repeated p 0 (some 1) true

/-- Any number of times. -/
def star (p : Pattern) : Pattern := repeated p 0 none true

/-- At least once. -/
def plus (p : Pattern) : Pattern := repeated p 1 none true

/-- A text as it stands. -/
def literal (s : String) : Pattern := sequence (s.toList.map fun c => .char (.single c))

/-- The whole text, from its start to its end. -/
def whole (p : Pattern) : Pattern := .cat (.anchor .textStart) (.cat p (.anchor .textEnd))

end Pattern

end Registrar
