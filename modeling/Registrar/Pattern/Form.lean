import Registrar.Pattern.Basic
import Registrar.Pattern.Spans

/-!
# Patterns in simplified form

The automaton of a pattern is made from its form, in which sequences and choices are flat, letters
in a row are one text and letters to choose from are one set. Where all branches of a choice begin
with the same parts, these come before the choice (`Form.ofBranches`). A form matches what its
pattern matches; it only has fewer parts.
-/

namespace Registrar.Pattern

/-- A pattern in simplified form. -/
inductive Form where
  | empty
  /-- Some characters, one after another. -/
  | text (cs : List Char)
  /-- One character of a set, which may be one of bytes. -/
  | set (members : List Span) (bytes : Bool)
  | place (a : Anchor)
  /-- A group the place of whose match is kept. -/
  | group (f : Form)
  | times (f : Form) (least : Nat) (most : Option Nat) (greedy : Bool)
  | sequence (fs : List Form)
  | choice (fs : List Form)

instance : Inhabited Form := ⟨.empty⟩

namespace Form

mutual

/-- Whether two forms are the same. A group is the same as no other. -/
def same : Form → Form → Bool
  | .empty, .empty => true
  | .text a, .text b => a == b
  | .set a bytes, .set b bytes' => a == b && bytes == bytes'
  | .place a, .place b => a == b
  | .times f least most greedy, .times g least' most' greedy' =>
    same f g && least == least' && most == most' && greedy == greedy'
  | .sequence fs, .sequence gs => sameAll fs gs
  | .choice fs, .choice gs => sameAll fs gs
  | _, _ => false

/-- Whether two lists hold the same forms. -/
def sameAll : List Form → List Form → Bool
  | [], [] => true
  | f :: fs, g :: gs => same f g && sameAll fs gs
  | _, _ => false

end

mutual

/-- Whether a form takes up no characters wherever it matches. -/
def isNull : Form → Bool
  | .empty | .place _ => true
  | .text cs => cs.isEmpty
  | .set _ _ => false
  | .group f => isNull f
  | .times f _ _ _ => isNull f
  | .sequence fs | .choice fs => allNull fs

/-- Whether all forms of a list take up no characters. -/
def allNull : List Form → Bool
  | [] => true
  | f :: fs => isNull f && allNull fs

end

mutual

/-- The least number of characters a form takes up, unless a part of it can never match. -/
def fewest? : Form → Option Nat
  | .empty | .place _ => some 0
  | .text cs => some cs.length
  | .set members _ => if members.isEmpty then none else some 1
  | .group f => fewest? f
  | .times f least _ _ => (fewest? f).map (· * least)
  | .sequence fs => total? fs
  | .choice fs => (fewestOf? fs).bind List.min?

/-- The least numbers that the forms of a list take up together. -/
def total? : List Form → Option Nat
  | [] => some 0
  | f :: fs =>
    match fewest? f, total? fs with
    | some n, some m => some (n + m)
    | _, _ => none

/-- The least numbers that the forms of a list take up. -/
def fewestOf? : List Form → Option (List Nat)
  | [] => some []
  | f :: fs =>
    match fewest? f, fewestOf? fs with
    | some n, some ns => some (n :: ns)
    | _, _ => none

end

/-! ## Simplification -/

/-- One character of some spans; one character alone is a text. -/
def ofSpans (bytes : Bool) : List Span → Form
  | [] => .set [] false
  | [(a, b)] => if a = b then .text [Char.ofNat a] else .set [(a, b)] bytes
  | members => .set members bytes

/-- One character of a set. -/
def ofSet : CharSet → Form
  | .bytes s => ofSpans true s.spans
  | s => ofSpans false s.spans

/-- The parts of a form in a row. -/
def parts : Form → List Form
  | .empty => []
  | .sequence fs => fs
  | f => [f]

/-- Put a part before others; two texts in a row are one. -/
def before : Form → List Form → List Form
  | .text a, .text b :: rest => .text (a ++ b) :: rest
  | f, rest => f :: rest

/-- Parts in a row as a form. -/
def ofParts : List Form → Form
  | [] => .empty
  | [f] => f
  | fs => .sequence fs

/-- One form after another. -/
def append (f g : Form) : Form := ofParts (f.parts.foldr before g.parts)

/-- A form a number of times. -/
def repeated (f : Form) (least : Nat) (most : Option Nat) (greedy : Bool) : Form :=
  if least = 0 ∧ most = some 0 then .empty
  else if least = 1 ∧ most = some 1 then f
  else .times f least most greedy

/-- The branches of a form to choose from. -/
def branches : Form → List Form
  | .choice fs => fs
  | f => [f]

/-- The span of a text of one character. -/
def letter? : Form → Option (List Span)
  | .text [c] => some [(c.toNat, c.toNat)]
  | _ => none

/-- The members of a set. -/
def members? : Form → Option (List Span)
  | .set members _ => some members
  | _ => none

/-- The parts of a sequence. -/
def sequence? : Form → Option (List Form)
  | .sequence fs => some fs
  | _ => none

/-- Letters to choose from, or sets, as one set. -/
def merged? (fs : List Form) : Option Form :=
  ((fs.mapM letter?).or (fs.mapM members?)).map fun spans => ofSpans false (Span.tidy spans.flatten)

/-- The parts that two sequences begin with. -/
def shared : List Form → List Form → List Form
  | f :: fs, g :: gs => if same f g then f :: shared fs gs else []
  | _, _ => []

/-- Branches to choose from as a form. What all of them begin with is put before the choice. -/
def ofBranches (fs : List Form) : Form :=
  match fs.flatMap branches with
  | [] => .set [] false
  | [f] => f
  | fs =>
    match merged? fs, fs.mapM sequence? with
    | some f, _ => f
    | none, some (first :: rest) =>
      match rest.foldl shared first with
      | [] => .choice fs
      | start =>
        let ends := (first :: rest).flatMap fun ps => (ofParts (ps.drop start.length)).branches
        append (ofParts start) ((merged? ends).getD (.choice ends))
    | none, _ => .choice fs

end Form

/-- The forms of the branches of a pattern. -/
def branchForms : Pattern → List Form
  | .empty => [.empty]
  | .char set => [Form.ofSet set]
  | .anchor a => [.place a]
  | .cat p q => [(Form.ofBranches (branchForms p)).append (Form.ofBranches (branchForms q))]
  | .alt p q => Form.ofBranches (branchForms p) :: branchForms q
  | .group kept p =>
    let f := Form.ofBranches (branchForms p)
    [if kept then .group f else f]
  | .times p least most greedy => [(Form.ofBranches (branchForms p)).repeated least most greedy]

/-- The form of a pattern. -/
def form (p : Pattern) : Form := Form.ofBranches (branchForms p)

end Registrar.Pattern
