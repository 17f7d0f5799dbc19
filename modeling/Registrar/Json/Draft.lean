import Registrar.Json.Basic
import Registrar.Decimal.Fraction
import Registrar.Text.Hex

/-!
# Drafts: JSON text as it stands

A text is read into a `Draft`, which keeps what a document forgets: members in the order written,
repeats included, and the place where the text stops being well formed. A reader of descriptors
walks the draft from front to back and reports the first thing wrong, be it a missing field or a
missing brace. Reading a document proper (`Json.parse?`) asks that nothing is wrong anywhere, that
numbers are in range, that surrogates come in pairs and that containers nest at most 127 deep; of
members with one key the last counts.
-/

namespace Registrar

/-- JSON text as it stands, up to the first place that is malformed. -/
inductive Draft where
  | null
  | bool (b : Bool)
  /-- A number; none when it is out of range. -/
  | number (n : Option Number)
  /-- A text; none when an escape in it names half a surrogate pair. -/
  | string (s : Option String)
  /-- An array, and whether its bracket was closed. -/
  | array (items : List Draft) (closed : Bool)
  /-- An object, and whether its brace was closed. -/
  | object (members : List (Option String × Draft)) (closed : Bool)
  /-- Here the text is malformed, or ends. -/
  | broken

namespace Draft

/-- Blanks between the parts of a document. -/
def isBlank (c : Char) : Bool := c == ' ' || c == '\n' || c == '\t' || c == '\r'

/-- Drop blanks in front. -/
def skip (cs : List Char) : List Char := cs.dropWhile isBlank

/-! ## Texts -/

/-- The value of four hexadecimal digits. -/
def hex4? (a b c d : Char) : Option Nat := do
  let a ← Text.hexValue? a
  let b ← Text.hexValue? b
  let c ← Text.hexValue? c
  let d ← Text.hexValue? d
  return ((a * 16 + b) * 16 + c) * 16 + d

/-- The second half of a surrogate pair at the front of `cs`, with what follows it. -/
def lowSurrogate? : List Char → Option (Nat × List Char)
  | '\\' :: 'u' :: a :: b :: c :: d :: rest =>
    match hex4? a b c d with
    | some n => if 0xdc00 ≤ n ∧ n ≤ 0xdfff then some (n, rest) else none
    | none => none
  | _ => none

theorem length_lt_of_lowSurrogate? {cs rest : List Char} {n : Nat}
    (h : lowSurrogate? cs = some (n, rest)) : rest.length < cs.length := by
  unfold lowSurrogate? at h
  split at h <;> grind

/-- What an escape other than a numeric one stands for. -/
def escaped? : Char → Option Char
  | '"' => some '"'
  | '\\' => some '\\'
  | '/' => some '/'
  | 'b' => some '\x08'
  | 'f' => some '\x0c'
  | 'n' => some '\n'
  | 'r' => some '\r'
  | 't' => some '\t'
  | _ => none

/-- Read a text after its opening quote. The characters read so far are in `acc`, the last first;
`paired` says that no surrogate stood alone. The answer is none where the text is malformed. -/
def readText (acc : List Char) (paired : Bool) :
    List Char → Option (Option String × List Char)
  | [] => none
  | '"' :: rest => some (if paired then some (String.ofList acc.reverse) else none, rest)
  | '\\' :: 'u' :: a :: b :: c :: d :: rest =>
    match hex4? a b c d with
    | none => none
    | some n =>
      if 0xd800 ≤ n ∧ n ≤ 0xdbff then
        match h : lowSurrogate? rest with
        | some (low, more) =>
          have := length_lt_of_lowSurrogate? h
          readText (Char.ofNat (0x10000 + (n - 0xd800) * 0x400 + (low - 0xdc00)) :: acc)
            paired more
        | none => readText acc false rest
      else if 0xdc00 ≤ n ∧ n ≤ 0xdfff then readText acc false rest
      else readText (Char.ofNat n :: acc) paired rest
  | '\\' :: c :: rest =>
    match escaped? c with
    | some e => readText (e :: acc) paired rest
    | none => none
  | c :: rest => if c.toNat < 32 ∨ c = '\\' then none else readText (c :: acc) paired rest
termination_by cs => cs.length
decreasing_by all_goals (simp only [List.length_cons] at *; omega)

/-! ## Numbers -/

/-- The greatest power of ten that a float is scaled by at once. -/
def scaleStep : Nat := 308

/-- The number `digits · 10 ^ exponent` as a float: the digits are rounded to a float first, and
then scaled by powers of ten. None when the result would be infinite. -/
def scaled? (digits : Nat) (exponent : Int) : Option Float :=
  let x := Float.ofNat digits
  let power (k : Nat) : Float := Float.ofScientific 1 false k
  if digits = 0 then some 0
  else if 0 ≤ exponent then
    if exponent ≤ scaleStep then
      let y := x * power exponent.toNat
      if y.isInf then none else some y
    else none
  else
    let k := exponent.natAbs
    if k ≤ scaleStep then some (x / power k)
    else if k ≤ 2 * scaleStep then some (x / power scaleStep / power (k - scaleStep))
    else some 0

/-- Leading digits that fit 64 bits, and how many more there are. -/
def leadingDigits : Nat → List Char → Nat × Nat
  | n, [] => (n, 0)
  | n, c :: cs =>
    let m := n * 10 + (c.toNat - 48)
    if m ≤ Decimal.maxUInt64 then leadingDigits m cs else (n, cs.length + 1)

/-- A number as written: its sign, the digits before the point, those after it if there is a point,
and the exponent with its sign if there is one. -/
structure NumberText where
  negative : Bool
  whole : List Char
  fraction : Option (List Char)
  exponent : Option (Bool × List Char)

namespace NumberText

/-- The exponent as a number. -/
def shift (t : NumberText) : Int :=
  match t.exponent with
  | some (negative, ds) =>
    let n : Int := Decimal.natOfDigits ds
    if negative then -n else n
  | none => 0

/-- The number that was written; none when it is out of range. A whole number that fits 64 bits is
kept as one, except `-0`; any other number is a float. -/
def number? (t : NumberText) : Option Number :=
  let (n, dropped) := leadingDigits 0 t.whole
  if t.fraction.isNone && t.exponent.isNone && dropped == 0 && (!t.negative || n != 0)
      && (!t.negative || n ≤ Decimal.maxInt64 + 1) then
    if t.negative then some (Number.ofInt64 (Int64.ofInt (-n))) else some (.nat (UInt64.ofNat n))
  else
    let ds := t.fraction.getD []
    let (m, left) := leadingDigits n ds
    match scaled? m (dropped - ((ds.length - left : Nat) : Int) + t.shift) with
    | some x => Number.ofFloat? (if t.negative then -x else x)
    | none => none

end NumberText

/-- Split off the digits in front. -/
def spanDigits (cs : List Char) : List Char × List Char :=
  (cs.takeWhile Char.isDigit, cs.dropWhile Char.isDigit)

/-- Read a number. The digits before the point are one zero, or do not begin with one; after a
point and after an exponent mark at least one digit must follow. -/
def readNumber (cs : List Char) : Option (NumberText × List Char) := do
  let (negative, cs) := match cs with
    | '-' :: rest => (true, rest)
    | rest => (false, rest)
  let (whole, cs) := spanDigits cs
  if whole.isEmpty || (whole.head? == some '0' && whole.length != 1) then none
  let (fraction, cs) ← match cs with
    | '.' :: rest =>
      let (ds, rest) := spanDigits rest
      if ds.isEmpty then none else some (some ds, rest)
    | rest => some (none, rest)
  let (exponent, cs) ← match cs with
    | c :: rest =>
      if c = 'e' ∨ c = 'E' then
        let (sign, rest) := match rest with
          | '+' :: more => (false, more)
          | '-' :: more => (true, more)
          | more => (false, more)
        let (ds, rest) := spanDigits rest
        if ds.isEmpty then none else some (some (sign, ds), rest)
      else some (none, c :: rest)
    | [] => some (none, [])
  return (⟨negative, whole, fraction, exponent⟩, cs)

/-! ## Values -/

/-- Drop a word in front. -/
def dropWord? : List Char → List Char → Option (List Char)
  | [], cs => some cs
  | w :: ws, c :: cs => if w = c then dropWord? ws cs else none
  | _ :: _, [] => none

mutual

/-- Read a value, and give what follows it. What follows a malformed value is not looked at. The
depth of nesting is bounded by `fuel`, for which the length of the text is always enough. -/
def readValue (fuel : Nat) (cs : List Char) : Draft × List Char :=
  match fuel, skip cs with
  | 0, _ => (.broken, [])
  | _, [] => (.broken, [])
  | fuel + 1, '[' :: rest =>
    match skip rest with
    | ']' :: rest => (.array [] true, rest)
    | rest =>
      let (items, closed, rest) := readItems fuel rest
      (.array items closed, rest)
  | fuel + 1, '\x7b' :: rest =>
    match skip rest with
    | '\x7d' :: rest => (.object [] true, rest)
    | rest =>
      let (members, closed, rest) := readMembers fuel rest
      (.object members closed, rest)
  | _, '"' :: rest =>
    match readText [] true rest with
    | some (s, rest) => (.string s, rest)
    | none => (.broken, [])
  | _, 'n' :: rest =>
    match dropWord? ['u', 'l', 'l'] rest with
    | some rest => (.null, rest)
    | none => (.broken, [])
  | _, 't' :: rest =>
    match dropWord? ['r', 'u', 'e'] rest with
    | some rest => (.bool true, rest)
    | none => (.broken, [])
  | _, 'f' :: rest =>
    match dropWord? ['a', 'l', 's', 'e'] rest with
    | some rest => (.bool false, rest)
    | none => (.broken, [])
  | _, c :: rest =>
    match readNumber (c :: rest) with
    | some (t, rest) => (.number t.number?, rest)
    | none => (.broken, [])

/-- Read items up to the closing bracket. -/
def readItems (fuel : Nat) (cs : List Char) : List Draft × Bool × List Char :=
  match fuel with
  | 0 => ([], false, [])
  | fuel + 1 =>
    let (item, rest) := readValue fuel cs
    match skip rest with
    | ',' :: rest =>
      let (items, closed, rest) := readItems fuel rest
      (item :: items, closed, rest)
    | ']' :: rest => ([item], true, rest)
    | _ => ([item], false, [])

/-- Read members up to the closing brace. -/
def readMembers (fuel : Nat) (cs : List Char) : List (Option String × Draft) × Bool × List Char :=
  match fuel with
  | 0 => ([], false, [])
  | fuel + 1 =>
    match skip cs with
    | '"' :: rest =>
      match readText [] true rest with
      | none => ([], false, [])
      | some (key, rest) =>
        match skip rest with
        | ':' :: rest =>
          let (value, rest) := readValue fuel rest
          match skip rest with
          | ',' :: rest =>
            let (members, closed, rest) := readMembers fuel rest
            ((key, value) :: members, closed, rest)
          | '\x7d' :: rest => ([(key, value)], true, rest)
          | _ => ([(key, value)], false, [])
        | _ => ([(key, .broken)], false, [])
    | _ => ([], false, [])

end

/-- Read a text: the draft, and whether nothing but blanks follows it. -/
def read (s : String) : Draft × Bool :=
  let cs := s.toList
  let (draft, rest) := readValue (2 * cs.length + 2) cs
  (draft, (skip rest).isEmpty)

/-! ## Documents -/

mutual

/-- The document of a draft without a fault, its containers nested at most `depth` deep. -/
def document? (depth : Nat) : Draft → Option Json
  | .null => some .null
  | .bool b => some (.bool b)
  | .number n => n.map .number
  | .string s => s.map .string
  | .array items closed =>
    if closed && 0 < depth then (documents? (depth - 1) items).map .array else none
  | .object members closed =>
    if closed && 0 < depth then
      (memberDocuments? (depth - 1) members).map fun ms => .object (Entries.ofPairs ms)
    else none
  | .broken => none

/-- The documents of items. -/
def documents? (depth : Nat) : List Draft → Option (List Json)
  | [] => some []
  | d :: rest => do
    let j ← document? depth d
    let js ← documents? depth rest
    return j :: js

/-- The documents of members. -/
def memberDocuments? (depth : Nat) :
    List (Option String × Draft) → Option (List (String × Json))
  | [] => some []
  | (key, d) :: rest => do
    let k ← key
    let j ← document? depth d
    let js ← memberDocuments? depth rest
    return (k, j) :: js

end

end Draft

namespace Json

/-- How deep the containers of a document may nest. -/
def maxDepth : Nat := 127

/-- Read a document whose containers nest at most `depth` deep. -/
def parseWithin? (depth : Nat) (s : String) : Option Json :=
  match Draft.read s with
  | (draft, true) => draft.document? depth
  | (_, false) => none

/-- Read a document. -/
def parse? (s : String) : Option Json := parseWithin? maxDepth s

end Json

end Registrar
