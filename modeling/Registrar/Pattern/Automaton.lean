import Registrar.Pattern.Bytes
import Registrar.Pattern.Form
import Registrar.Pattern.Trie
import Std.Data.HashMap

/-!
# How large the automaton of a pattern is

A pattern is matched by an automaton over bytes, of which there are two: one reads forward to find
where a match ends, the other backward from there to where it starts. Repetitions are written out
in them, so that a short pattern can have a huge automaton; a pattern is refused if one of its two
would take more than `maxMemory` bytes (`Form.fits`).

The automaton itself is not needed to tell its size. `build` goes through the form of a pattern in
the order in which states are made and keeps only their number and what they hold (`Extent`); it
stops as soon as this is too much.
-/

namespace Registrar.Pattern

/-- Which way an automaton reads. -/
inductive Direction where
  | forward
  | backward
  deriving DecidableEq

/-- How much of an automaton has been made. -/
structure Extent where
  states : Nat
  /-- What the states hold beyond what each state takes. -/
  bytes : Nat
  /-- Whether the last part ends in a fork, so that it takes a branch more to go on from it. -/
  forked : Bool

/-- How many bytes an automaton may take. -/
def maxMemory : Nat := 10485760

namespace Extent

/-- Nothing made yet. -/
def zero : Extent := ⟨0, 0, false⟩

/-- The bytes that an automaton takes. -/
def memory (e : Extent) : Nat := 32 * e.states + e.bytes

/-- Make some states that hold some bytes, unless this is too much. -/
def grow (e : Extent) (states bytes : Nat) : Option Extent :=
  let e : Extent := ⟨e.states + states, e.bytes + bytes, false⟩
  if e.memory ≤ maxMemory then some e else none

/-- Go on from the last part. -/
def link (e : Extent) : Option Extent := if e.forked then e.grow 0 4 else some e

/-- The last part ends in a fork. -/
def fork (e : Extent) : Extent := { e with forked := true }

end Extent

/-! ## Sets -/

/-- What is made for one set: the extent, and the states that may be used again. Of these there is
at most one in each of a number of slots, with the key it was made for. -/
structure Draft where
  extent : Extent
  slots : Std.HashMap Nat (List Nat × Nat)

/-- The slot of a key, of `count` slots. -/
def slotOf (count : Nat) (key : List Nat) : Nat :=
  let start : UInt64 := 14695981039346656037
  let factor : UInt64 := 1099511628211
  (key.foldl (fun h n => (h ^^^ UInt64.ofNat n) * factor) start).toNat % count

/-- The state for a key: the one in its slot if it was made for the same key, or a new one. -/
def Draft.state (count : Nat) (key : List Nat) (bytes : Nat) (d : Draft) : Option (Nat × Draft) :=
  let slot := slotOf count key
  match d.slots[slot]? with
  | some (known, state) => if known = key then some (state, d) else make slot
  | none => make slot
where
  /-- Make a state and keep it in a slot. -/
  make (slot : Nat) : Option (Nat × Draft) :=
    (d.extent.grow 1 bytes).map fun e =>
      (d.extent.states, ⟨e, d.slots.insert slot (key, d.extent.states)⟩)

/-- A state that is not finished: its arcs so far, each as the byte span and the state it leads to,
and the byte span of the last arc, which leads to the next unfinished state. -/
structure Unfinished where
  arcs : List Nat
  last : Nat × Nat

/-- The state that an unfinished state and those after it come to; the last one leads to
`target`. -/
def finish (target : Nat) : List Unfinished → Draft → Option (Nat × Draft)
  | [], d => some (target, d)
  | u :: rest, d =>
    match finish target rest d with
    | some (next, d) =>
      let arcs := u.arcs ++ [u.last.1, u.last.2, next]
      d.state 10000 arcs (8 * (arcs.length / 3))
    | none => none

/-- Add a sequence of byte spans to unfinished states. Those beyond what it has in common with them
are finished. -/
def addSequence (target : Nat) : List (Nat × Nat) → List Unfinished → Draft →
    Option (List Unfinished × Draft)
  | [], us, d => some (us, d)
  | r :: rs, [], d => some ((r :: rs).map fun r => ⟨[], r⟩, d)
  | r :: rs, u :: rest, d =>
    if u.last = r then
      (addSequence target rs rest d).map fun (us, d) => (u :: us, d)
    else
      (finish target rest d).map fun (next, d) =>
        (⟨u.arcs ++ [u.last.1, u.last.2, next], r⟩ :: rs.map fun r => ⟨[], r⟩, d)

/-- Add sequences of byte spans to unfinished states, and finish them. -/
def addSequences (target : Nat) : List (List (Nat × Nat)) → List Unfinished → Draft →
    Option Draft
  | [], us, d => (finish target us d).map (·.2)
  | rs :: rest, us, d =>
    match addSequence target rs us d with
    | some (us, d) => addSequences target rest us d
    | none => none

/-- The states for a sequence of byte spans that is read backward, where its first byte, which is
read last, leads to the state `next`. -/
def addBackward (next : Nat) : List (Nat × Nat) → Draft → Option Draft
  | [], d => (d.extent.grow 0 4).map fun e => { d with extent := e }
  | r :: rs, d =>
    match d.state 1000 [next, r.1, r.2] 0 with
    | some (next, d) => addBackward next rs d
    | none => none

/-- The part of an automaton for one character of a set. -/
def buildSet (dir : Direction) (members : List Span) (e : Extent) : Option Extent :=
  if members.all (·.2 < 0x80) then e.grow 2 (8 * members.length)
  else
    let sequences := members.flatMap Span.sequences
    match dir with
    | .forward => do
      let d ← addSequences e.states sequences [] ⟨← e.grow 1 0, ∅⟩
      return d.extent
    | .backward => do
      let d ← sequences.foldlM (fun d rs => addBackward (e.states + 1) rs d) ⟨← e.grow 2 0, ∅⟩
      return d.extent

/-! ## Repetition -/

/-- A part a number of times in a row. -/
def copies (part : Extent → Option Extent) : Nat → Extent → Option Extent
  | 0, e => some e
  | n + 1, e =>
    match e.link.bind part with
    | some e => copies part n e
    | none => none

/-- A part exactly `n` times. -/
def buildExactly (part : Extent → Option Extent) (n : Nat) (e : Extent) : Option Extent :=
  if n = 0 then e.grow 1 0 else copies part n e

/-- A part any number of times from `least` on. `takesUp` says that it takes up characters. -/
def buildUnbounded (part : Extent → Option Extent) (takesUp : Bool) (least : Nat) (e : Extent) :
    Option Extent :=
  match least with
  | 0 =>
    if takesUp then do
      let e ← (← part (← e.grow 1 0)).link
      return (← e.grow 0 4).fork
    else do
      let e ← (← part e).link
      e.grow 3 16
  | n + 1 => do
    let e ← (← part (← (← copies part n e).link)).link
    return (← e.grow 1 4).fork

/-- A part from `least` to `most` times. -/
def buildBounded (part : Extent → Option Extent) (least most : Nat) (e : Extent) : Option Extent :=
  if least = 0 ∧ most = 1 then do
    let e ← (← part (← e.grow 1 0)).link
    e.grow 1 8
  else if least = most then buildExactly part least e
  else do
    let e ← (← buildExactly part least e).link
    copies (fun e => do (← part (← e.grow 1 8)).link) (most - least) (← e.grow 1 0)

/-! ## Forms -/

/-- The bytes of a text, in the order in which they are read. -/
def Direction.bytes (dir : Direction) (cs : List Char) : List UInt8 :=
  let bs := cs.flatMap String.utf8EncodeChar
  match dir with
  | .forward => bs
  | .backward => bs.reverse

/-- The characters of a text. -/
def Form.text? : Form → Option (List Char)
  | .text cs => some cs
  | _ => none

/-- A choice of texts. -/
def buildTexts (dir : Direction) (texts : List (List Char)) (e : Extent) : Option Extent :=
  let size := (Trie.ofWords (texts.map dir.bytes)).extent
  e.grow (size.1 + 1) size.2

mutual

/-- The part of an automaton for a form. -/
def build (dir : Direction) : Form → Extent → Option Extent
  | .empty, e => e.grow 1 0
  | .place _, e => e.grow 1 0
  | .text cs, e => e.grow (dir.bytes cs).length 0
  | .set members _, e => buildSet dir members e
  | .group f, e =>
    match dir with
    | .forward => do (← (← build dir f (← e.grow 1 0)).link).grow 1 0
    | .backward => build dir f e
  | .times f least (some most) _, e => buildBounded (build dir f) least most e
  | .times f least none _, e =>
    buildUnbounded (build dir f) (f.fewest?.any (0 < ·)) least e
  | .sequence fs, e => buildAll dir fs e
  | .choice fs, e =>
    match fs.mapM Form.text? with
    | some texts => buildTexts dir texts e
    | none => buildBranches dir 0 fs e

/-- The part of an automaton for forms in a row. -/
def buildAll (dir : Direction) : List Form → Extent → Option Extent
  | [], e => some e
  | f :: fs, e =>
    match dir with
    | .forward => do buildAll dir fs (← build dir f (← e.link))
    | .backward => do build dir f (← (← buildAll dir fs e).link)

/-- The part of an automaton for forms to choose from, of which `count` are made already. The
states where the choice begins and ends are made after the second one. -/
def buildBranches (dir : Direction) (count : Nat) : List Form → Extent → Option Extent
  | [], e => some e
  | f :: fs, e => do
    let e ← (← build dir f e).link
    buildBranches dir (count + 1) fs (← e.grow (if count = 1 then 2 else 0) 4)

end

/-! ## Whole automata -/

mutual

/-- Whether all matches of a form begin at the start of the text or, backward, end at its end. -/
def Form.anchored (dir : Direction) : Form → Bool
  | .place a => a == (match dir with | .forward => .textStart | .backward => .textEnd)
  | .group f => anchored dir f
  | .times f least _ _ => 0 < least && anchored dir f
  | .sequence fs => anchoredRow dir fs
  | .choice fs => anchoredAll dir fs
  | _ => false

/-- Whether forms in a row are anchored by one that only such follow as take up no characters. -/
def Form.anchoredRow (dir : Direction) : List Form → Bool
  | [] => false
  | f :: fs =>
    match dir with
    | .forward => anchored dir f || (f.isNull && anchoredRow dir fs)
    | .backward => anchoredRow dir fs || (Form.allNull fs && anchored dir f)

/-- Whether all forms of a list are anchored. -/
def Form.anchoredAll (dir : Direction) : List Form → Bool
  | [] => true
  | f :: fs => anchored dir f && anchoredAll dir fs

end

/-- The automaton of a form: one part that skips bytes in front unless the form is anchored, then
that of the form between the states that keep the place of the match, and a last state. Nothing is
kept backward. -/
def buildWhole (dir : Direction) (f : Form) : Option Extent := do
  let e ← if f.anchored dir then Extent.zero.grow 1 0
    else (Extent.zero.grow 3 12).map Extent.fork
  let e ← e.link
  let e ← build dir (match dir with | .forward => .group f | .backward => f) e
  (← e.link).grow 1 0

/-- Whether the automata of a form are not too large. -/
def Form.fits (f : Form) : Bool :=
  (buildWhole .forward f).isSome && (buildWhole .backward f).isSome

end Registrar.Pattern
