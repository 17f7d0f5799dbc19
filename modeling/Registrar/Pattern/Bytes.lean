import Registrar.Pattern.Spans

/-!
# Spans of characters as spans of bytes

An automaton reads bytes. The characters of a span are those whose bytes lie, one by one, in the
spans of one of a few sequences of byte spans (`Span.sequences`). For this the span is cut where the
number of bytes changes, and then so that in each piece all bytes after the first that differs run
through all their values.
-/

namespace Registrar.Pattern.Span

/-- The pieces of a span whose characters have the same number of bytes. -/
def byLength (s : Span) : List Span :=
  [(0, 0x7f), (0x80, 0x7ff), (0x800, 0xffff), (0x10000, 0x10ffff)].filterMap fun t =>
    if max s.1 t.1 ≤ min s.2 t.2 then some (max s.1 t.1, min s.2 t.2) else none

/-- The pieces of a span that are cut at blocks of some sizes, each a multiple of the one before:
what is left of the first block, whole blocks, and what is begun of the last block. -/
def blocks : List Nat → Nat → Nat → List Span
  | [], a, b => [(a, b)]
  | m :: sizes, a, b =>
    if a / m = b / m then [(a, b)]
    else
      let start := (a + m - 1) / m * m
      let stop := (b + 1) / m * m
      (if a < start then [(a, start - 1)] else []) ++
        ((if start < stop then blocks sizes start (stop - 1) else []) ++
          (if stop ≤ b then [(stop, b)] else []))

/-- The bytes of the character with a code point. -/
def bytesOf (n : Nat) : List Nat := (String.utf8EncodeChar (Char.ofNat n)).map (·.toNat)

/-- The sequences of byte spans for the characters of a span. -/
def sequences (s : Span) : List (List (Nat × Nat)) :=
  s.byLength.flatMap fun t =>
    let pieces := if t.2 < 0x80 then [t] else blocks [0x40, 0x1000, 0x40000] t.1 t.2
    pieces.map fun p => (bytesOf p.1).zip (bytesOf p.2)

example : blocks [10, 100] 7 234 = [(7, 9), (10, 99), (100, 199), (200, 229), (230, 234)] := by
  decide
example : sequences (0x61, 0xe9) = [[(0x61, 0x7f)], [(0xc2, 0xc2), (0x80, 0xbf)],
    [(0xc3, 0xc3), (0x80, 0xa9)]] := by decide

end Registrar.Pattern.Span
