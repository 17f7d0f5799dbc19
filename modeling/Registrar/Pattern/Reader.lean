import Registrar.Pattern.Automaton
import Registrar.Pattern.Property
import Registrar.Decimal.Whole
import Registrar.Text.Hex
import Registrar.Text.Letter
import Registrar.Text.Split

/-!
# Patterns as text

The reader of the pattern language: characters that stand for themselves, escapes, classes in
brackets with unions, intersections and differences, groups with or without a name, flags, choice
and repetition. `Pattern.parse?` gives the pattern a text denotes, or nothing where the text is no
pattern. Look-around and references back are not part of the language. Nesting is limited to 250
levels (`maxNesting`), and the size of the automata that match the pattern is limited, too
(`maxMemory`).
-/

namespace Registrar.Pattern

/-- What a pattern means at one of its places depends on flags. -/
structure Flags where
  ignoreCase : Bool
  /-- Anchors hold at the ends of lines. -/
  multiLine : Bool
  /-- The point stands for line feeds as well. -/
  dotAll : Bool
  /-- Classes and letters of all scripts. -/
  unicode : Bool
  /-- Blanks and comments are skipped. -/
  verbose : Bool
  /-- A carriage return ends a line. -/
  crlf : Bool
  /-- Repetitions are lazy, and greedy with the mark that otherwise makes them lazy. -/
  swapped : Bool

/-- The flags a pattern begins with. -/
def Flags.initial : Flags := ⟨false, false, false, true, false, false, false⟩

/-- A part of a pattern, and how deep its parts nest. -/
structure Nested (α : Type) where
  value : α
  depth : Nat

/-- How deep the parts of a pattern may nest. -/
def maxNesting : Nat := 250

/-! ## Blanks, digits and escapes -/

/-- Drop blanks and comments in front. -/
def dropComments (inComment : Bool) : List Char → List Char
  | [] => []
  | c :: cs =>
    if inComment then dropComments (c != '\n') cs
    else if Text.isBlank c then dropComments false cs
    else if c = '#' then dropComments true cs
    else c :: cs

/-- Drop what is skipped in front, under the flag that says so. -/
def Flags.skip (fl : Flags) (cs : List Char) : List Char :=
  if fl.verbose then dropComments false cs else cs

/-- The first character that is not skipped in front, as it is seen without reading on. A comment is
taken to end at the first character in it that is no blank; where all is skipped, it is the very
first character. -/
def Flags.glance (fl : Flags) (cs : List Char) : Option Char :=
  if fl.verbose then (look false cs).or cs.head? else cs.head?
where
  /-- Look past blanks and the sign that begins a comment. -/
  look (inComment : Bool) : List Char → Option Char
    | [] => none
    | c :: cs =>
      if Text.isBlank c then look inComment cs
      else if c = '#' ∧ !inComment then look true cs
      else some c

/-- The text up to a closing brace without what is skipped in it, and what follows the brace. A
brace in a comment closes nothing. -/
def Flags.braced? (fl : Flags) (cs : List Char) : Option (List Char × List Char) :=
  read false cs
where
  /-- Read on, in a comment or not. -/
  read (inComment : Bool) : List Char → Option (List Char × List Char)
    | [] => none
    | c :: cs =>
      if inComment then read (c != '\n') cs
      else if c = '\x7d' then some ([], cs)
      else if fl.verbose && Text.isBlank c then read false cs
      else if fl.verbose && c == '#' then read true cs
      else (read false cs).map fun (content, rest) => (c :: content, rest)

/-- The character with a code point, if it has one. -/
def scalar? (n : Nat) : Option Char :=
  if n < 0xd800 ∨ (0xdfff < n ∧ n < 0x110000) then some (Char.ofNat n) else none

/-- Read `k` hexadecimal digits. -/
def hexDigits? (fl : Flags) : Nat → Nat → List Char → Option (Nat × List Char)
  | 0, n, cs => some (n, cs)
  | _ + 1, _, [] => none
  | k + 1, n, c :: cs =>
    match Text.hexValue? c with
    | some d => hexDigits? fl k (n * 16 + d) (fl.skip cs)
    | none => none

/-- One thing that stands for characters, or for a place. -/
inductive Atom where
  /-- A character; `byte` says that it was written with two hexadecimal digits. -/
  | literal (c : Char) (byte : Bool)
  | set (s : CharSet)
  | anchor (a : Anchor)

/-- Read a character given by its code point: `k` digits, or any number in braces. -/
def readCodePoint (fl : Flags) (k : Nat) (cs : List Char) : Option (Atom × List Char) :=
  match fl.skip cs with
  | '\x7b' :: cs => do
    let (ds, rest) ← fl.braced? cs
    let ds ← ds.mapM Text.hexValue?
    let c ← scalar? (ds.foldl (fun n d => n * 16 + d) 0)
    if ds.isEmpty then none else return (.literal c false, fl.skip rest)
  | cs => do
    let (n, rest) ← hexDigits? fl k 0 cs
    return (.literal (← scalar? n) (k == 2), rest)

/-- Close a set under differences in case where the flags ask for it. -/
def Flags.fold (fl : Flags) (s : CharSet) : CharSet :=
  if fl.ignoreCase then (if fl.unicode then .folded s else .foldedAscii s) else s

/-- A set as one of characters or, without the flag for all scripts, of bytes. -/
def Flags.kind (fl : Flags) (s : CharSet) : CharSet := if fl.unicode then s else .bytes s

/-- The complement of a set where `negated`. Without the flag for all scripts, a class must keep to
the first 128 characters. -/
def Flags.negate? (fl : Flags) (negated : Bool) (s : CharSet) : Option CharSet :=
  let s := if negated then .compl s else s
  if fl.unicode || s.isAscii then some s else none

/-- Read a class named by a property. -/
def readProperty (fl : Flags) (negated : Bool) (cs : List Char) : Option (Atom × List Char) :=
  if !fl.unicode then none
  else
    match fl.skip cs with
    | '\x7b' :: cs => do
      let (name, rest) ← fl.braced? cs
      let text := String.ofList name
      let (differs, parts) :=
        match text.splitOn "!=" with
        | [p, v] => (true, [p, v])
        | _ =>
          match text.splitOn ":" with
          | [p, v] => (false, [p, v])
          | _ => (false, text.splitOn "=")
      let s ← match parts with
        | [name] => property? name
        | [property, value] => propertyValue? property value
        | _ => none
      return (.set (← fl.negate? (negated != differs) (fl.fold s)), rest)
    | '\\' :: _ => none
    | c :: rest => do
      let s ← property? (String.ofList [c])
      return (.set (← fl.negate? negated (fl.fold s)), rest)
    | [] => none

/-- A character of the names of special word edges. -/
def isEdgeName (c : Char) : Bool := c.isAlpha || c == '-'

/-- Read a word edge after `\b`: the plain one, or one of four with a name in braces. Braces with a
number in them belong to a repetition. -/
def readEdge (fl : Flags) (words : CharSet) (cs : List Char) : Option (Atom × List Char) :=
  match cs with
  | '\x7b' :: inner =>
    match fl.skip inner with
    | [] => none
    | c :: _ =>
      if isEdgeName c then do
        let (name, rest) ← fl.braced? inner
        match String.ofList name with
        | "start" => return (.anchor (.wordStart words), rest)
        | "end" => return (.anchor (.wordEnd words), rest)
        | "start-half" => return (.anchor (.wordStartHalf words), rest)
        | "end-half" => return (.anchor (.wordEndHalf words), rest)
        | _ => none
      else some (.anchor (.wordEdge words), cs)
  | cs => some (.anchor (.wordEdge words), cs)

/-- Read an escape after its backslash. -/
def readEscape (fl : Flags) (cs : List Char) : Option (Atom × List Char) :=
  let words : CharSet := if fl.unicode then .word else .asciiWord
  let named (negated : Bool) (all ascii : CharSet) (rest : List Char) : Option (Atom × List Char) :=
    (fl.negate? negated (if fl.unicode then all else ascii)).map fun s => (.set s, rest)
  match cs with
  | [] => none
  | c :: rest =>
    let literal (d : Char) : Option (Atom × List Char) := some (.literal d false, rest)
    match c with
    | 'x' => readCodePoint fl 2 rest
    | 'u' => readCodePoint fl 4 rest
    | 'U' => readCodePoint fl 8 rest
    | 'p' => readProperty fl false rest
    | 'P' => readProperty fl true rest
    | 'd' => named false .digit .asciiDigit rest
    | 'D' => named true .digit .asciiDigit rest
    | 's' => named false .blank .asciiBlank rest
    | 'S' => named true .blank .asciiBlank rest
    | 'w' => named false .word .asciiWord rest
    | 'W' => named true .word .asciiWord rest
    | 'a' => literal '\x07'
    | 'f' => literal '\x0c'
    | 't' => literal '\t'
    | 'n' => literal '\n'
    | 'r' => literal '\r'
    | 'v' => literal '\x0b'
    | 'A' => some (.anchor .textStart, rest)
    | 'z' => some (.anchor .textEnd, rest)
    | 'b' => readEdge fl words rest
    | 'B' => some (.anchor (.notWordEdge words), rest)
    | '<' => some (.anchor (.wordStart words), rest)
    | '>' => some (.anchor (.wordEnd words), rest)
    | c => if c.toNat < 128 && !c.isAlphanum then literal c else none

/-! ## Classes -/

/-- How two sets are combined within a class. -/
inductive SetOp where
  | inter
  | diff
  | symmDiff

/-- Combine the sets on both sides of an operator. -/
def SetOp.apply (fl : Flags) (op : SetOp) (a b : Nested CharSet) : Nested CharSet :=
  let x := fl.fold a.value
  let y := fl.fold b.value
  let s := match op with
    | .inter => .inter x y
    | .diff => .diff x y
    | .symmDiff => .symmDiff x y
  ⟨s, 1 + max a.depth b.depth⟩

/-- The union of the items of a class, the last of them first. -/
def unionOf (items : List (Nested CharSet)) : Nested CharSet :=
  match items with
  | [] => ⟨.empty, 0⟩
  | [s] => s
  | items =>
    ⟨.unions (items.reverse.map (·.value)), 1 + items.foldl (fun d s => max d s.depth) 0⟩

/-- The set of a class so far: the items, and the operator and operand before them. -/
def settle (fl : Flags) (left : Option (SetOp × Nested CharSet)) (items : List (Nested CharSet)) :
    Nested CharSet :=
  match left with
  | some (op, s) => op.apply fl s (unionOf items)
  | none => unionOf items

/-- Whether a character may stand in a class on its own. -/
def Flags.admits (fl : Flags) (c : Char) : Bool := fl.unicode || c.toNat < 128

/-- Read a character or an escape within a class. -/
def readClassAtom (fl : Flags) : List Char → Option (Atom × List Char)
  | '\\' :: rest => readEscape fl rest
  | c :: rest => some (.literal c false, rest)
  | [] => none

/-- Read an item of a class: a character, an escape, or a range. -/
def readRange (fl : Flags) (cs : List Char) : Option (Nested CharSet × List Char) := do
  let (first, rest) ← readClassAtom fl cs
  let rest := fl.skip rest
  let alone : Option (Nested CharSet × List Char) :=
    match first with
    | .literal c _ => if fl.admits c then some (⟨.single c, 0⟩, rest) else none
    | .set s => some (⟨s, 0⟩, rest)
    | .anchor _ => none
  match rest with
  | [] => none
  | '-' :: more =>
    match fl.glance more with
    | some ']' | some '-' => alone
    | _ =>
      let (last, rest) ← readClassAtom fl (fl.skip more)
      match first, last with
      | .literal a _, .literal b _ =>
        if fl.admits a && fl.admits b && a.toNat ≤ b.toNat then
          some (⟨.between a b, 0⟩, rest)
        else none
      | _, _ => none
  | _ => alone

/-- Read a set named between `[:` and `:]`, after the first bracket. -/
def readPosix? (fl : Flags) (cs : List Char) : Option (CharSet × List Char) :=
  match cs with
  | ':' :: rest =>
    let (negated, rest) := match rest with
      | '^' :: rest => (true, rest)
      | rest => (false, rest)
    let name := rest.takeWhile (· != ':')
    match rest.dropWhile (· != ':') with
    | ':' :: ']' :: rest => do
      let s ← CharSet.posix? (String.ofList name)
      let s := fl.fold s
      return (if negated then .compl s else s, rest)
    | _ => none
  | _ => none

/-- Split off the hyphens that stand for themselves at the start of a class. -/
def leadingHyphens (fl : Flags) : Nat → List Char → List (Nested CharSet) × List Char
  | fuel + 1, '-' :: rest =>
    let (items, rest) := leadingHyphens fl fuel (fl.skip rest)
    (⟨.single '-', 0⟩ :: items, rest)
  | _, cs => ([], cs)

/-- What stands at the start of a class: a caret that negates it, hyphens, or a closing bracket that
stands for itself. -/
def openClass (fl : Flags) (cs : List Char) : Bool × List (Nested CharSet) × List Char :=
  let cs := fl.skip cs
  let (negated, cs) := match cs with
    | '^' :: rest => (true, fl.skip rest)
    | rest => (false, rest)
  let (items, cs) := leadingHyphens fl cs.length cs
  match items, cs with
  | [], ']' :: rest => (negated, [⟨.single ']', 0⟩], fl.skip rest)
  | items, cs => (negated, items, cs)

/-- Read a class after its opening bracket. `items` are the items read since the last operator, the
last first. -/
def readClass (fl : Flags) (fuel : Nat) (negated : Bool)
    (left : Option (SetOp × Nested CharSet)) (items : List (Nested CharSet)) (cs : List Char) :
    Option (Nested CharSet × List Char) :=
  match fuel with
  | 0 => none
  | fuel + 1 =>
    let operator (op : SetOp) (rest : List Char) :=
      readClass fl fuel negated (some (op, settle fl left items)) [] rest
    match fl.skip cs with
    | [] => none
    | ']' :: rest => do
      let s := settle fl left items
      let closed ← fl.negate? negated (fl.fold s.value)
      return (⟨closed, 1 + s.depth⟩, rest)
    | '[' :: rest =>
      match readPosix? fl rest with
      | some (s, more) =>
        if fl.unicode || s.isAscii then
          readClass fl fuel negated left (⟨s, 0⟩ :: items) more
        else none
      | none => do
        let (inner, first, rest) := openClass fl rest
        let (s, rest) ← readClass fl fuel inner none first rest
        readClass fl fuel negated left (s :: items) rest
    | '&' :: '&' :: rest => operator .inter rest
    | '-' :: '-' :: rest => operator .diff rest
    | '~' :: '~' :: rest => operator .symmDiff rest
    | cs => do
      let (s, rest) ← readRange fl cs
      readClass fl fuel negated left (s :: items) rest

/-! ## Groups and repetition -/

/-- Whether a character may stand in the name of a group. -/
def isNameChar (first : Bool) (c : Char) : Bool :=
  c == '_' || Text.isAlphabetic c ||
    (!first && (c == '.' || c == '[' || c == ']' || Text.isNumeric c))

/-- Read the name of a group after its opening angle bracket. -/
def readName (names : List String) (cs : List Char) : Option (String × List Char) :=
  match cs.takeWhile (· != '>'), cs.dropWhile (· != '>') with
  | c :: name, _ :: rest =>
    let text := String.ofList (c :: name)
    if isNameChar true c && name.all (isNameChar false) && !names.contains text then
      some (text, rest)
    else none
  | _, _ => none

/-- Set or clear the flag with a letter. -/
def Flags.set? (fl : Flags) (on : Bool) : Char → Option Flags
  | 'i' => some { fl with ignoreCase := on }
  | 'm' => some { fl with multiLine := on }
  | 's' => some { fl with dotAll := on }
  | 'u' => some { fl with unicode := on }
  | 'x' => some { fl with verbose := on }
  | 'R' => some { fl with crlf := on }
  | 'U' => some { fl with swapped := on }
  | _ => none

/-- Apply the letters of a flag group: each at most once, those after a hyphen cleared. -/
def Flags.apply? (fl : Flags) (on : Bool) (seen : List Char) : List Char → Option Flags
  | [] => if seen.head? = some '-' then none else some fl
  | c :: cs =>
    if seen.contains c then none
    else if c = '-' then Flags.apply? fl false ('-' :: seen) cs
    else
      match fl.set? on c with
      | some fl => Flags.apply? fl on (c :: seen) cs
      | none => none

/-- What opens a group. -/
inductive Opening where
  /-- A group, whether the place of its match is kept, its name if it has one, and the flags
  inside. -/
  | group (kept : Bool) (name : Option String) (fl : Flags)
  /-- No group, but flags for what follows. -/
  | flags (fl : Flags)

/-- Read what stands after an opening parenthesis. -/
def readOpening (fl : Flags) (names : List String) (cs : List Char) :
    Option (Opening × List Char) :=
  match fl.skip cs with
  | '?' :: '=' :: _ | '?' :: '!' :: _ | '?' :: '<' :: '=' :: _ | '?' :: '<' :: '!' :: _ => none
  | '?' :: 'P' :: '<' :: rest | '?' :: '<' :: rest => do
    let (name, rest) ← readName names rest
    return (.group true (some name) fl, rest)
  | '?' :: rest => do
    let stops (c : Char) : Bool := c == ':' || c == ')'
    let letters := rest.takeWhile (!stops ·)
    let inner ← fl.apply? true [] letters
    match rest.dropWhile (!stops ·) with
    | ':' :: rest => return (.group false none inner, rest)
    | _ :: rest => if letters.isEmpty then none else return (.flags inner, rest)
    | [] => none
  | rest => some (.group true none fl, rest)

/-- Read a bound of a repetition: a number of 32 bits, with blanks around it. -/
def readBound (cs : List Char) : Option Nat :=
  let ds := Text.trimChars cs
  let n := Decimal.natOfDigits ds
  if !ds.isEmpty && ds.all Char.isDigit && n ≤ 0xffffffff then some n else none

/-- The bounds of a repetition that the content of braces gives. -/
def bounds? (content : List Char) : Option (Nat × Option Nat) :=
  match Text.splitChars ',' content with
  | [n] => (readBound n).map fun n => (n, some n)
  | [n, []] => (readBound n).map fun n => (n, none)
  | [n, m] => do
    let least ← readBound n
    let most ← readBound m
    if least ≤ most then some (least, some most) else none
  | _ => none

/-- Whether a repetition is greedy, by the mark that may follow it, and what comes after the
mark. -/
def Flags.greed (fl : Flags) : List Char → Bool × List Char
  | '?' :: rest => (fl.swapped, rest)
  | rest => (!fl.swapped, rest)

/-- An item of a sequence; flags on their own cannot be repeated. -/
structure Item where
  pattern : Pattern
  depth : Nat
  repeatable : Bool

/-- The items of a sequence, the last first, as one pattern. -/
def sequenceOf (items : List Item) : Nested Pattern :=
  match items with
  | [] => ⟨.empty, 0⟩
  | [i] => ⟨i.pattern, i.depth⟩
  | items =>
    ⟨.sequence (items.reverse.map (·.pattern)), 1 + items.foldl (fun d i => max d i.depth) 0⟩

/-- The branches of a choice, the last first, as one pattern. -/
def choiceOf (branches : List (Nested Pattern)) : Nested Pattern :=
  match branches with
  | [] => ⟨.empty, 0⟩
  | [b] => b
  | branches =>
    ⟨.choice (branches.reverse.map (·.value)), 1 + branches.foldl (fun d b => max d b.depth) 0⟩

/-- The pattern of an atom. -/
def Atom.pattern? (fl : Flags) : Atom → Option Pattern
  | .literal c byte =>
    if byte && !fl.unicode && 127 < c.toNat then none
    else some (.char (fl.kind (fl.fold (.single c))))
  | .set s => some (.char (fl.kind s))
  | .anchor a => some (.anchor a)

/-- Read one character or escape outside of a class. -/
def readPrimitive (fl : Flags) : List Char → Option (Pattern × List Char)
  | [] => none
  | '\\' :: rest => do
    let (a, rest) ← readEscape fl rest
    return (← a.pattern? fl, rest)
  | '.' :: rest =>
    if !fl.unicode then none
    else if fl.dotAll then some (.char .any, rest)
    else if fl.crlf then some (.char (.compl (.ofChars "\r\n")), rest)
    else some (.char (.compl (.single '\n')), rest)
  | '^' :: rest =>
    let a : Anchor :=
      if fl.multiLine then (if fl.crlf then .crlfStart else .lineStart) else .textStart
    some (.anchor a, rest)
  | '$' :: rest =>
    let a : Anchor := if fl.multiLine then (if fl.crlf then .crlfEnd else .lineEnd) else .textEnd
    some (.anchor a, rest)
  | c :: rest => some (.char (fl.kind (fl.fold (.single c))), rest)

/-- Read a choice up to the end of the text or a closing parenthesis, which is left in place.
`items` is the sequence read so far, the last item first, and `branches` are the sequences before
it. With the pattern come the names of its groups. -/
def readChoice (fuel : Nat) (fl : Flags) (names : List String) (branches : List (Nested Pattern))
    (items : List Item) (cs : List Char) : Option (Nested Pattern × List String × List Char) :=
  match fuel with
  | 0 => none
  | fuel + 1 =>
    let done (rest : List Char) := some (choiceOf (sequenceOf items :: branches), names, rest)
    let next (p : Pattern) (depth : Nat) (names : List String) (rest : List Char) :=
      readChoice fuel fl names branches (⟨p, depth, true⟩ :: items) rest
    let again (least : Nat) (most : Option Nat) (rest : List Char) :=
      match items with
      | ⟨p, depth, true⟩ :: items =>
        let (greedy, rest) := fl.greed rest
        readChoice fuel fl names branches
          (⟨p.repeated least most greedy, depth + 1, true⟩ :: items) rest
      | _ => none
    match fl.skip cs with
    | [] => done []
    | ')' :: rest => done (')' :: rest)
    | '|' :: rest => readChoice fuel fl names (sequenceOf items :: branches) [] rest
    | '(' :: rest =>
      match readOpening fl names rest with
      | none => none
      | some (.flags fl, rest) =>
        readChoice fuel fl names branches (⟨.empty, 0, false⟩ :: items) rest
      | some (.group kept name inner, rest) =>
        match readChoice fuel inner (name.toList ++ names) [] [] rest with
        | some (p, names, ')' :: rest) =>
          next (.group kept p.value) (p.depth + 1) names rest
        | _ => none
    | '[' :: rest =>
      let (negated, first, rest) := openClass fl rest
      match readClass fl rest.length negated none first rest with
      | some (s, rest) => next (.char (fl.kind s.value)) s.depth names rest
      | none => none
    | '?' :: rest => again 0 (some 1) rest
    | '*' :: rest => again 0 none rest
    | '+' :: rest => again 1 none rest
    | '\x7b' :: rest =>
      match fl.braced? rest with
      | some (content, rest) =>
        match bounds? content with
        | some (least, most) => again least most (fl.skip rest)
        | none => none
      | none => none
    | cs =>
      match readPrimitive fl cs with
      | some (p, rest) => next p 0 names rest
      | none => none

/-- Read a pattern. -/
def parse? (text : String) : Option Pattern :=
  let cs := text.toList
  match readChoice (cs.length + 1) .initial [] [] [] cs with
  | some (p, _, []) =>
    if p.depth ≤ maxNesting && (form p.value).fits then some p.value else none
  | _ => none

end Registrar.Pattern
