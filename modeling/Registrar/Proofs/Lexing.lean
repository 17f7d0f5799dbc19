import Mathlib.Data.List.Basic
import Registrar.Statement.Build

/-!
# Reading a statement

How a database takes the text of a statement apart: words, quoted names in which a doubled quote
stands for one, placeholders, numbers, signs and marks, with blanks between them. The reader takes
one character after the other and knows nothing of how statements are built; a quote that is not
closed, or a character that begins nothing, and it reads nothing at all.

Results:
* `Statement.read_print`: tokens that are written with blanks, and closed up only at marks, are
  read as they are.
* `Statement.write_eq_print`: the text of a statement is its tokens so written, whatever its names
  and its values are.
* `Statement.placeholders_tokens`: the placeholders are numbered on, one for each bound value.
-/

namespace Registrar.Statement

/-- A token of a statement. -/
inductive Token where
  | word (s : String)
  /-- A quoted name, without its quotes. -/
  | name (s : String)
  | placeholder (n : Nat)
  | number (n : Nat)
  | sign (s : String)
  /-- The mark between a value and the type it is cast to. -/
  | cast
  | opening
  | closing
  | comma
  deriving DecidableEq, Repr

/-! ## The reader -/

namespace Reader

def isLetter (c : Char) : Bool := c.isAlpha || c = '_'

/-- Whether a character can stand in a word after its first one. -/
def isWordChar (c : Char) : Bool := isLetter c || c.isDigit || c = '$'

def isSignChar (c : Char) : Bool := c = '=' || c = '<' || c = '>'

/-- What the reader is in the middle of, with the characters it has taken so far. -/
inductive Mode where
  | between
  | word (cs : List Char)
  | number (cs : List Char)
  | placeholder (cs : List Char)
  | sign (cs : List Char)
  /-- After the first half of a cast. -/
  | colon
  /-- After a token that nothing prolongs. -/
  | mark (t : Token)
  /-- Inside the quotes of a name. -/
  | name (cs : List Char)
  /-- After a quote inside a name: the name is over, unless another quote follows. -/
  | quote (cs : List Char)

/-- The mode after a character that goes on with what the reader is in the middle of. -/
def Mode.extend? : Mode → Char → Option Mode
  | .word cs, c => if isWordChar c then some (.word (cs ++ [c])) else none
  | .number cs, c => if c.isDigit then some (.number (cs ++ [c])) else none
  | .placeholder cs, c => if c.isDigit then some (.placeholder (cs ++ [c])) else none
  | .sign cs, c => if isSignChar c then some (.sign (cs ++ [c])) else none
  | .colon, c => if c = ':' then some (.mark .cast) else none
  | .name cs, c => if c = '"' then some (.quote cs) else some (.name (cs ++ [c]))
  | .quote cs, c => if c = '"' then some (.name (cs ++ [c])) else none
  | .between, _ | .mark _, _ => none

/-- The tokens that end here, if something may end here. -/
def Mode.finish? : Mode → Option (List Token)
  | .between => some []
  | .word cs => some [.word (String.ofList cs)]
  | .number cs => some [.number (Nat.ofDigitChars 10 cs 0)]
  | .placeholder cs =>
    if cs.isEmpty then none else some [.placeholder (Nat.ofDigitChars 10 cs 0)]
  | .sign cs => some [.sign (String.ofList cs)]
  | .mark t => some [t]
  | .quote cs => some [.name (String.ofList cs)]
  | .colon | .name _ => none

/-- The mode after a character that begins something. -/
def begin? (c : Char) : Option Mode :=
  if c.isDigit then some (.number [c])
  else if isLetter c then some (.word [c])
  else if isSignChar c then some (.sign [c])
  else
    match c with
    | ' ' => some .between
    | '"' => some (.name [])
    | '$' => some (.placeholder [])
    | ':' => some .colon
    | '(' => some (.mark .opening)
    | ')' => some (.mark .closing)
    | ',' => some (.mark .comma)
    | _ => none

/-- Read on, in the middle of something. -/
def read : Mode → List Char → Option (List Token)
  | m, [] => m.finish?
  | m, c :: cs =>
    match m.extend? c with
    | some m' => read m' cs
    | none => do
      let done ← m.finish?
      let m' ← begin? c
      let rest ← read m' cs
      return done ++ rest

/-- Whether nothing that the characters begin with goes on with a mode. -/
def Mode.Stops (m : Mode) (cs : List Char) : Prop := ∀ c ∈ cs.head?, m.extend? c = none

theorem read_extend {m m' : Mode} {c : Char} (h : m.extend? c = some m') (cs : List Char) :
    read m (c :: cs) = read m' cs := by
  rw [read, h]

theorem read_begin {m : Mode} {c : Char} (h : begin? c = some m) (cs : List Char) :
    read .between (c :: cs) = read m cs := by
  simp [read, Mode.extend?, Mode.finish?, h]

theorem read_blank (cs : List Char) : read .between (' ' :: cs) = read .between cs :=
  read_begin rfl cs

/-- Where nothing goes on, what the reader was in the middle of is over. -/
theorem read_of_stops {m : Mode} {ts : List Token} (hm : m.finish? = some ts) {cs : List Char}
    (h : m.Stops cs) : read m cs = (read .between cs).map (ts ++ ·) := by
  cases cs with
  | nil => rw [read, read, hm, Mode.finish?, Option.map_some, List.append_nil]
  | cons c cs =>
    have hc : m.extend? c = none := h c rfl
    rw [read, hc, hm]
    cases hb : begin? c with
    | none => rw [read, hb]; rfl
    | some m' =>
      rw [read_begin hb]
      cases hr : read m' cs <;> simp [hr]

theorem begin?_digit {c : Char} (h : c.isDigit) : begin? c = some (.number [c]) :=
  if_pos h

theorem not_isDigit_of_isLetter {c : Char} (h : isLetter c) : ¬c.isDigit := by
  intro digit
  have low : c.val ≤ '9'.val := of_decide_eq_true (Bool.and_eq_true_iff.mp digit).2
  have high : 'A'.val ≤ c.val := by
    rcases Bool.or_eq_true_iff.mp h with alpha | underscore
    · rcases Bool.or_eq_true_iff.mp alpha with upper | lower
      · exact (of_decide_eq_true upper).1
      · have above : 'a'.val ≤ c.val := of_decide_eq_true (Bool.and_eq_true_iff.mp lower).1
        exact UInt32.le_trans (by decide) above
    · obtain rfl := of_decide_eq_true underscore
      decide
  exact absurd (UInt32.le_trans high low) (by decide)

theorem begin?_letter {c : Char} (h : isLetter c) : begin? c = some (.word [c]) := by
  unfold begin?
  rw [if_neg (not_isDigit_of_isLetter h), if_pos h]

theorem begin?_sign {c : Char} (h : isSignChar c) : begin? c = some (.sign [c]) := by
  have : c = '=' ∨ c = '<' ∨ c = '>' := by simpa [isSignChar, or_assoc] using h
  rcases this with rfl | rfl | rfl <;> rfl

/-- Characters that each prolong a token are taken one after the other. -/
theorem read_run {make : List Char → Mode} {p : Char → Bool}
    (step : ∀ cs c, p c → (make cs).extend? c = some (make (cs ++ [c]))) (rest : List Char) :
    ∀ (cs acc : List Char), (∀ c ∈ cs, p c) →
      read (make acc) (cs ++ rest) = read (make (acc ++ cs)) rest
  | [], acc, _ => by rw [List.nil_append, List.append_nil]
  | c :: cs, acc, h => by
    obtain ⟨hc, h⟩ := List.forall_mem_cons.mp h
    rw [List.cons_append, read_extend (step acc c hc), read_run step rest cs _ h,
      List.append_assoc, List.singleton_append]

theorem extend?_word {c : Char} (h : isWordChar c) (cs : List Char) :
    (Mode.word cs).extend? c = some (.word (cs ++ [c])) :=
  if_pos h

theorem extend?_sign {c : Char} (h : isSignChar c) (cs : List Char) :
    (Mode.sign cs).extend? c = some (.sign (cs ++ [c])) :=
  if_pos h

theorem extend?_number {c : Char} (h : c.isDigit) (cs : List Char) :
    (Mode.number cs).extend? c = some (.number (cs ++ [c])) :=
  if_pos h

theorem extend?_placeholder {c : Char} (h : c.isDigit) (cs : List Char) :
    (Mode.placeholder cs).extend? c = some (.placeholder (cs ++ [c])) :=
  if_pos h

/-- Whether characters begin with one of a class, and go on with those of another. -/
def isRun (first later : Char → Bool) : List Char → Bool
  | [] => false
  | c :: cs => first c && cs.all later

theorem isRun_iff {first later : Char → Bool} {cs : List Char} :
    isRun first later cs ↔ ∃ c rest, cs = c :: rest ∧ first c ∧ ∀ d ∈ rest, later d := by
  cases cs with
  | nil => simp [isRun]
  | cons c cs => simp [isRun]

/-- A name is over at its own closing quote, and at none of the quotes inside it. -/
theorem read_escape (rest : List Char) : ∀ (cs acc : List Char),
    read (.name acc) (Piece.escape cs ++ '"' :: rest) = read (.quote (acc ++ cs)) rest
  | [], acc => by rw [Piece.escape, List.nil_append, read_extend rfl, List.append_nil]
  | c :: cs, acc => by
    have ih := read_escape rest cs (acc ++ [c])
    rw [List.append_assoc, List.singleton_append] at ih
    by_cases hc : c = '"'
    · -- the first of the two quotes may be the closing one, and the second tells that it is not
      subst hc
      rw [Piece.escape, if_pos rfl, List.cons_append, List.cons_append, read_extend rfl,
        read_extend rfl, ih]
    · have inside : (Mode.name acc).extend? c = some (.name (acc ++ [c])) := if_neg hc
      rw [Piece.escape, if_neg hc, List.cons_append, read_extend inside, ih]

end Reader

open Reader

/-- The tokens of a text; none if it is no text of a statement. -/
def read? (text : String) : Option (List Token) := read .between text.toList

/-! ## Tokens in writing -/

namespace Token

/-- Whether a token, if it is a word or a sign, is read as one. -/
def isProper : Token → Bool
  | .word s => isRun isLetter isWordChar s.toList
  | .sign s => isRun isSignChar isSignChar s.toList
  | _ => true

/-- A token as it is written. -/
def chars : Token → List Char
  | .word s | .sign s => s.toList
  | .name s => '"' :: Piece.escape s.toList ++ ['"']
  | .placeholder n => '$' :: Nat.toDigits 10 n
  | .number n => Nat.toDigits 10 n
  | .cast => [':', ':']
  | .opening => ['(']
  | .closing => [')']
  | .comma => [',']

/-- Whether a token closes up to the one before it. -/
def closesBefore : Token → Bool
  | .cast | .closing | .comma => true
  | _ => false

/-- Whether the next token closes up to a token. -/
def closesAfter : Token → Bool
  | .cast | .opening => true
  | _ => false

/-- What the reader is in the middle of after the characters of a token. -/
def mode : Token → Mode
  | .word s => .word s.toList
  | .sign s => .sign s.toList
  | .name s => .quote s.toList
  | .placeholder n => .placeholder (Nat.toDigits 10 n)
  | .number n => .number (Nat.toDigits 10 n)
  | .cast => .mark .cast
  | .opening => .mark .opening
  | .closing => .mark .closing
  | .comma => .mark .comma

theorem isDigit_toDigits (n : Nat) : ∀ c ∈ Nat.toDigits 10 n, c.isDigit := fun _ hc =>
  Nat.isDigit_of_mem_toDigits (by decide) (by decide) hc

theorem finish?_mode (t : Token) : t.mode.finish? = some [t] := by
  cases t <;> simp [mode, Mode.finish?, Nat.toDigits_ne_nil]

/-- The characters of a token are read up to the last. -/
theorem read_chars {t : Token} (ht : t.isProper) (rest : List Char) :
    read .between (t.chars ++ rest) = read t.mode rest := by
  cases t with
  | word s =>
    obtain ⟨c, cs, hs, hc, hcs⟩ := isRun_iff.mp ht
    rw [chars, mode, hs, List.cons_append, read_begin (begin?_letter hc),
      read_run (fun acc d hd => extend?_word hd acc) rest cs [c] hcs, List.singleton_append]
  | sign s =>
    obtain ⟨c, cs, hs, hc, hcs⟩ := isRun_iff.mp ht
    rw [chars, mode, hs, List.cons_append, read_begin (begin?_sign hc),
      read_run (fun acc d hd => extend?_sign hd acc) rest cs [c] hcs, List.singleton_append]
  | name s =>
    rw [chars, mode, List.cons_append, List.cons_append, List.append_assoc, List.singleton_append,
      read_begin rfl, read_escape, List.nil_append]
  | placeholder n =>
    rw [chars, mode, List.cons_append, read_begin rfl,
      read_run (fun acc d hd => extend?_placeholder hd acc) rest _ [] (isDigit_toDigits n),
      List.nil_append]
  | number n =>
    have hd := isDigit_toDigits n
    rw [chars, mode]
    cases hn : Nat.toDigits 10 n with
    | nil => exact absurd hn Nat.toDigits_ne_nil
    | cons c cs =>
      rw [hn] at hd
      obtain ⟨hc, hcs⟩ := List.forall_mem_cons.mp hd
      rw [List.cons_append, read_begin (begin?_digit hc),
        read_run (fun acc d hd => extend?_number hd acc) rest cs [c] hcs, List.singleton_append]
  | cast =>
    rw [chars, mode, List.cons_append, List.cons_append, read_begin rfl, read_extend rfl]
    rfl
  | opening => exact read_begin rfl rest
  | closing => exact read_begin rfl rest
  | comma => exact read_begin rfl rest

/-- A token is over where it is closed up to a mark, or a blank follows. -/
theorem stops_mode (t : Token) {c : Char} (hc : c ∈ [' ', ':', ')', ',']) (cs : List Char) :
    t.mode.Stops (c :: cs) := by
  rintro d ⟨⟩
  simp only [List.mem_cons, List.not_mem_nil, or_false] at hc
  rcases hc with rfl | rfl | rfl | rfl <;> cases t <;> rfl

end Token

/-- Write tokens one after the other, where the first one closes up to what is before it if
`tight`. -/
def print (tight : Bool) : List Token → List Char
  | [] => []
  | t :: ts =>
    (if tight || t.closesBefore then [] else [' ']) ++ t.chars ++ print t.closesAfter ts

/-- Where a token is followed by others in writing, it is over. -/
theorem stops_print (t : Token) (ts : List Token) : t.mode.Stops (print t.closesAfter ts) := by
  cases ha : t.closesAfter with
  | true =>
    -- such a token is a mark, which nothing prolongs
    intro c _
    cases t with
    | cast | opening => rfl
    | _ => contradiction
  | false =>
    cases ts with
    | nil => intro c hc; contradiction
    | cons u ts =>
      -- a blank comes next, or the first character of a mark that closes up
      rw [print, Bool.false_or]
      cases u <;> exact t.stops_mode (by simp) _

/-- Tokens in writing are read as they are. -/
theorem read_print {ts : List Token} (h : ∀ t ∈ ts, t.isProper) (tight : Bool) :
    read .between (print tight ts) = some ts := by
  induction ts generalizing tight with
  | nil => rfl
  | cons t ts ih =>
    obtain ⟨ht, h⟩ := List.forall_mem_cons.mp h
    have blank : ∀ cs, read .between ((if tight || t.closesBefore then [] else [' ']) ++ cs)
        = read .between cs := by
      intro cs
      split
      · rfl
      · exact read_blank cs
    rw [print, List.append_assoc, blank, t.read_chars ht,
      read_of_stops t.finish?_mode (stops_print t ts), ih h]
    rfl

example : read? "\"a\"\" = $1\" = $2::text" =
    some [.name "a\" = $1", .sign "=", .placeholder 2, .cast, .word "text"] := by
  decide

example : read? "\"a = $1" = none := by decide

end Registrar.Statement

/-! ## Pieces as tokens -/

namespace Registrar

open Statement

/-- The tokens of a word. -/
def Word.tokens : Word → List Token
  | .select => [.word "SELECT"]
  | .from => [.word "FROM"]
  | .where => [.word "WHERE"]
  | .and => [.word "AND"]
  | .orderBy => [.word "ORDER", .word "BY"]
  | .ascending => [.word "ASC"]
  | .descending => [.word "DESC"]
  | .limit => [.word "LIMIT"]
  | .offset => [.word "OFFSET"]
  | .among => [.word "IN"]
  | .insertInto => [.word "INSERT", .word "INTO"]
  | .values => [.word "VALUES"]
  | .returning => [.word "RETURNING"]
  | .update => [.word "UPDATE"]
  | .set => [.word "SET"]
  | .eq => [.sign "="]
  | .lt => [.sign "<"]
  | .lte => [.sign "<="]
  | .gt => [.sign ">"]
  | .gte => [.sign ">="]

theorem Word.isProper_tokens (w : Word) : ∀ t ∈ w.tokens, t.isProper := by
  cases w <;> decide

/-- The words of the type that values of a kind are cast to. -/
def Kind.typeTokens : Kind → List Token
  | .string => [.word "text"]
  | .int | .uint => [.word "bigint"]
  | .float => [.word "double", .word "precision"]
  | .bool => [.word "boolean"]
  | .sequence | .struct => [.word "jsonb"]

theorem Kind.isProper_typeTokens (k : Kind) : ∀ t ∈ k.typeTokens, t.isProper := by
  cases k <;> decide

namespace Piece

/-- The tokens of a piece, where `n` values are bound up to and with it. -/
def tokens (n : Nat) : Piece → List Token
  | .word w => w.tokens
  | .name s => [.name s]
  | .value kind _ => .placeholder n :: .cast :: kind.typeTokens
  | .number n => [.number n]
  | .opening => [.opening]
  | .closing => [.closing]
  | .comma => [.comma]

/-- Whether the next piece closes up to a piece. -/
def closesAfter : Option Piece → Bool
  | none | some .opening => true
  | _ => false

/-- Whether a piece closes up to the one before it. -/
def closesBefore : Piece → Bool
  | .comma | .closing => true
  | _ => false

/-- A blank goes between two pieces unless one of them closes up to the other. -/
theorem isSpaced_eq (previous : Option Piece) (p : Piece) :
    p.isSpaced previous = !(closesAfter previous || p.closesBefore) := by
  cases p <;> (rcases previous with - | (_ | _ | _ | _ | _ | _ | _) <;> rfl)

theorem isProper_tokens (n : Nat) (p : Piece) : ∀ t ∈ p.tokens n, t.isProper := by
  cases p with
  | word w => exact w.isProper_tokens
  | value kind b =>
    refine List.forall_mem_cons.mpr ⟨rfl, List.forall_mem_cons.mpr ⟨rfl, ?_⟩⟩
    exact kind.isProper_typeTokens
  | _ => exact List.forall_mem_singleton.mpr rfl

/-- A piece is written as its tokens are. -/
theorem print_tokens (n : Nat) (previous : Option Piece) (p : Piece) (ts : List Token) :
    print (closesAfter previous) (p.tokens n ++ ts)
      = (if p.isSpaced previous then [' '] else []) ++ p.chars n
        ++ print (closesAfter (some p)) ts := by
  rw [isSpaced_eq]
  cases closesAfter previous <;> cases p with
  | word w => cases w <;> rfl
  | value kind b =>
    cases kind <;> simp [tokens, print, chars, placeholder, closesAfter, closesBefore,
      Kind.typeTokens, Kind.columnType, Token.chars, Token.closesBefore, Token.closesAfter]
  | _ => simp [tokens, print, chars, closesAfter, closesBefore, Token.chars, Token.closesBefore,
      Token.closesAfter]

end Piece

namespace Statement

/-- The tokens of pieces, where `n` values are bound before them. -/
def tokens (n : Nat) : List Piece → List Token
  | [] => []
  | p :: rest =>
    let m := if p.bind?.isSome then n + 1 else n
    p.tokens m ++ tokens m rest

/-- The text of a statement is its tokens in writing. -/
theorem write_eq_print (pieces : List Piece) : ∀ (n : Nat) (previous : Option Piece),
    write n previous pieces = print (Piece.closesAfter previous) (tokens n pieces) := by
  induction pieces with
  | nil => intro n previous; rfl
  | cons p rest ih =>
    intro n previous
    rw [write, tokens, Piece.print_tokens, ih]

theorem isProper_tokens (pieces : List Piece) (n : Nat) : ∀ t ∈ tokens n pieces, t.isProper := by
  induction pieces generalizing n with
  | nil => exact List.forall_mem_nil _
  | cons p rest ih =>
    exact List.forall_mem_append.mpr ⟨p.isProper_tokens _, ih _⟩

/-- A statement is read as its tokens, whatever its names and its values are. -/
theorem read?_text (st : Statement) : read? st.text = some (tokens 0 st.pieces) := by
  rw [read?, text, String.toList_ofList, write_eq_print]
  exact read_print (isProper_tokens _ _) _

/-- The values that pieces bind. -/
def binds (pieces : List Piece) : List Bind := pieces.filterMap Piece.bind?

theorem binds_append (a b : List Piece) : binds (a ++ b) = binds a ++ binds b :=
  List.filterMap_append

theorem length_binds_cons (p : Piece) (rest : List Piece) :
    (binds (p :: rest)).length = (if p.bind?.isSome then 1 else 0) + (binds rest).length := by
  unfold binds
  cases hp : p.bind? with
  | none => rw [List.filterMap_cons_none hp, if_neg (by simp), Nat.zero_add]
  | some b =>
    rw [List.filterMap_cons_some hp, List.length_cons]
    exact Nat.add_comm _ _

theorem tokens_append (a b : List Piece) (n : Nat) :
    tokens n (a ++ b) = tokens n a ++ tokens (n + (binds a).length) b := by
  induction a generalizing n with
  | nil => rfl
  | cons p rest ih =>
    rw [List.cons_append, tokens, tokens, ih, List.append_assoc, length_binds_cons]
    congr 3
    split <;> omega

/-- The numbers of the placeholders among tokens. -/
def placeholders (ts : List Token) : List Nat :=
  ts.filterMap fun
    | .placeholder n => some n
    | _ => none

theorem placeholders_piece (n : Nat) (p : Piece) :
    placeholders (p.tokens n) = if p.bind?.isSome then [n] else [] := by
  cases p with
  | word w => cases w <;> rfl
  | value kind b => cases kind <;> rfl
  | _ => rfl

/-- The placeholders are numbered on from those before, one for each bound value. -/
theorem placeholders_tokens (pieces : List Piece) (n : Nat) :
    placeholders (tokens n pieces) = List.range' (n + 1) (binds pieces).length := by
  induction pieces generalizing n with
  | nil => rfl
  | cons p rest ih =>
    have h : placeholders (tokens n (p :: rest)) = placeholders (p.tokens _) ++ placeholders _ :=
      List.filterMap_append
    rw [h, placeholders_piece, ih, length_binds_cons]
    split
    · rw [Nat.add_comm 1, List.range'_succ]
      rfl
    · rw [Nat.zero_add]
      rfl

end Statement

end Registrar
