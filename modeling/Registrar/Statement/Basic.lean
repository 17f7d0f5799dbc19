import Registrar.Statement.Bind

/-!
# Statements

A statement is a list of pieces: words of the language, names, values, numbers and marks. Its text
and the values it binds are both read off the pieces, so that the placeholders are numbered in the
order of the text and belong each to its value. Names are quoted, and a quote inside a name is
written twice; values never appear in the text, only their placeholders with the column type of
their kind.

See section 15 of the specification.

Out of scope: the growth of a statement from values and texts, which is that of a `Buffer`.
-/

namespace Registrar

/-- A word or a sign of the statement language. -/
inductive Word where
  | select
  | from
  | where
  | and
  | orderBy
  | ascending
  | descending
  | limit
  | offset
  | among
  | insertInto
  | values
  | returning
  | update
  | set
  | eq
  | lt
  | lte
  | gt
  | gte
  deriving DecidableEq, Repr

namespace Word

/-- A word as it is written. -/
def text : Word → String
  | .select => "SELECT"
  | .from => "FROM"
  | .where => "WHERE"
  | .and => "AND"
  | .orderBy => "ORDER BY"
  | .ascending => "ASC"
  | .descending => "DESC"
  | .limit => "LIMIT"
  | .offset => "OFFSET"
  | .among => "IN"
  | .insertInto => "INSERT INTO"
  | .values => "VALUES"
  | .returning => "RETURNING"
  | .update => "UPDATE"
  | .set => "SET"
  | .eq => "="
  | .lt => "<"
  | .lte => "<="
  | .gt => ">"
  | .gte => ">="

/-- The word for a comparison. -/
def ofOperator : Operator → Word
  | .eq => .eq
  | .lt => .lt
  | .lte => .lte
  | .gt => .gt
  | .gte => .gte
  | .among => .among

/-- The word for a direction. -/
def ofDirection : Direction → Word
  | .ascending => .ascending
  | .descending => .descending

end Word

/-- A piece of a statement. -/
inductive Piece where
  | word (w : Word)
  /-- The name of a table or a column. -/
  | name (s : String)
  /-- A value that is bound, for a field of some kind. -/
  | value (kind : Kind) (bind : Bind)
  | number (n : Nat)
  | opening
  | closing
  | comma

namespace Piece

/-- The inside of a quoted name: every quote is written twice. -/
def escape : List Char → List Char
  | [] => []
  | c :: cs => if c = '"' then '"' :: '"' :: escape cs else c :: escape cs

/-- The placeholder with a number, with the column type that its value is cast to. -/
def placeholder (n : Nat) (kind : Kind) : List Char :=
  '$' :: Nat.toDigits 10 n ++ "::".toList ++ kind.columnType.toList

/-- A piece as it is written, where `n` values are bound up to and with this piece. -/
def chars (n : Nat) : Piece → List Char
  | .word w => w.text.toList
  | .name s => '"' :: escape s.toList ++ ['"']
  | .value kind _ => placeholder n kind
  | .number n => Nat.toDigits 10 n
  | .opening => ['(']
  | .closing => [')']
  | .comma => [',']

/-- The value that a piece binds. -/
def bind? : Piece → Option Bind
  | .value _ b => some b
  | _ => none

/-- Whether a blank goes before a piece, when `previous` is the piece before it. -/
def isSpaced (previous : Option Piece) : Piece → Bool
  | .comma | .closing => false
  | _ =>
    match previous with
    | none | some .opening => false
    | _ => true

end Piece

/-- A statement with the values it binds. -/
structure Statement where
  pieces : List Piece

namespace Statement

/-- Write pieces one after the other, where `n` values are bound before them and `previous` is the
piece before them. -/
def write (n : Nat) (previous : Option Piece) : List Piece → List Char
  | [] => []
  | p :: rest =>
    let m := if p.bind?.isSome then n + 1 else n
    (if p.isSpaced previous then [' '] else []) ++ p.chars m ++ write m (some p) rest

/-- The text of a statement. -/
def text (s : Statement) : String := String.ofList (write 0 none s.pieces)

/-- The values that a statement binds, in the order of its text. -/
def params (s : Statement) : List Bind := s.pieces.filterMap Piece.bind?

end Statement

end Registrar
