/-!
# Tries of words

Words to choose from are merged into a trie, so that words that begin alike share a path. The order
of the words counts: where a word ends, the words after it start anew, and their arcs form a further
chunk.
-/

namespace Registrar.Pattern

/-- A node of a trie: how often words ended here so as to close a chunk, and its arcs, each with the
number of its chunk and its byte. -/
inductive Trie where
  | node (ends : Nat) (arcs : List (Nat × UInt8 × Trie))

namespace Trie

/-- The trie of no words. -/
def empty : Trie := .node 0 []

/-- Add a word. A word that ends where another did before it is lost if no arcs leave there. -/
def insert : List UInt8 → Trie → Trie
  | [], .node ends arcs =>
    if arcs.isEmpty ∧ ends ≠ 0 then .node ends arcs else .node (ends + 1) arcs
  | b :: rest, .node ends arcs =>
    if arcs.any fun arc => arc.1 == ends && arc.2.1 == b then
      .node ends (arcs.map fun arc =>
        if arc.1 == ends && arc.2.1 == b then (ends, b, insert rest arc.2.2) else arc)
    else .node ends (arcs ++ [(ends, b, insert rest empty)])

/-- The trie of some words. -/
def ofWords (words : List (List UInt8)) : Trie := words.foldl (fun t w => t.insert w) empty

/-- How many arcs each chunk has that has any. -/
def chunks (ends : Nat) (arcs : List (Nat × UInt8 × Trie)) : List Nat :=
  ((List.range (ends + 1)).map fun k => arcs.countP (·.1 == k)).filter (· != 0)

mutual

/-- How many states the nodes of a trie take, and how many bytes their branches: a state for each
chunk, and one from which the chunks and the ends of words branch off. A node without arcs takes
none. -/
def extent : Trie → Nat × Nat
  | .node _ [] => (0, 0)
  | .node ends (arc :: arcs) =>
    let below := extents (arc :: arcs)
    let sizes := chunks ends (arc :: arcs)
    let held := sizes.foldl (fun n k => if k = 1 then n else n + 8 * k) 0
    (below.1 + sizes.length + 1, below.2 + held + 4 * (sizes.length + ends))

/-- What the nodes that arcs lead to take together. -/
def extents : List (Nat × UInt8 × Trie) → Nat × Nat
  | [] => (0, 0)
  | (_, _, t) :: arcs => ((extent t).1 + (extents arcs).1, (extent t).2 + (extents arcs).2)

end

end Trie

end Registrar.Pattern
