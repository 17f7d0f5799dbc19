import Registrar.Statement.Basic

/-!
# Statements for records

The statements that a database is asked: the rows of a query, the row with a key, and the writing
of a record. Each gives back every column of the resource.

See section 15 of the specification.

Out of scope: the running of a statement on a database, and the reading of rows that it gives back.
-/

namespace Registrar.Statement

/-- Pieces in a list with commas. -/
def listed (parts : List (List Piece)) : List Piece := [Piece.comma].intercalate parts

/-- The name of a field's column. -/
def column (f : Field) : Piece := .name f.columnName

/-- The columns of a schema. -/
def columns (s : Schema) : List Piece := listed (s.persisted.map fun e => [column e.2])

/-- A value for a field. -/
def bound (f : Field) (v : Value) : Except Failure Piece :=
  (Bind.ofValue v).map (.value f.kind)

/-- A literal for a field. -/
def literal (f : Field) (text : String) : Except Failure Piece := f.literal text >>= bound f

/-- A condition on the rows of a schema. -/
def condition (s : Schema) (c : Condition) : Except Failure (List Piece) :=
  match s.field? c.field with
  | none => .error (.internal (.unknownConditionField c.field))
  | some f =>
    match c.operand with
    | .single text => do
      let v ← literal f text
      return [column f, .word (.ofOperator c.operator), v]
    | .many texts => do
      let vs ← texts.mapM (literal f)
      return [column f, .word .among, .opening] ++ listed (vs.map fun v => [v]) ++ [.closing]

/-- Conditions that must all hold. -/
def whereClause : List (List Piece) → List Piece
  | [] => []
  | conditions => .word .where :: [Piece.word .and].intercalate conditions

/-- The order of the rows of a schema: by its key, unless another is asked for. -/
def orderClause (s : Schema) : Option Order → Except Failure (List Piece)
  | none => .ok [.word .orderBy, column s.keyField]
  | some o =>
    match s.field? o.field with
    | none => .error (.internal (.unknownOrderField o.field))
    | some f => .ok [.word .orderBy, column f, .word (.ofDirection o.direction)]

/-- The columns of a table. -/
def selection (s : Schema) : List Piece :=
  [.word .select] ++ columns s ++ [.word .from, .name s.collection]

/-- The rows that a query asks for. -/
def select (s : Schema) (q : Query) : Except Failure Statement := do
  let conditions ← q.conditions.mapM (condition s)
  let order ← orderClause s q.order
  return ⟨selection s ++ whereClause conditions ++ order
    ++ [.word .limit, .number q.limit, .word .offset, .number q.offset]⟩

/-- The row with a key. -/
def keyed (s : Schema) (id : Piece) : List Piece := [.word .where, column s.keyField, .word .eq, id]

/-- The row with a key. -/
def selectById (s : Schema) (id : Value) : Except Failure Statement := do
  let id ← bound s.keyField id
  return ⟨selection s ++ keyed s id⟩

/-- The columns that a record is inserted with, and their values. A key that the database is to
assign is left out. -/
def insertion (r : Record) : Except Failure (List (Piece × Piece)) :=
  (r.schema.persisted.filter fun (i, _) =>
    !(i = r.schema.primaryKey && r.schema.autoKey && r.key.isZero)).mapM fun (i, f) => do
      let v ← bound f (r.value i)
      return (column f, v)

/-- Insert a record. -/
def insert (r : Record) : Except Failure Statement := do
  let cells ← insertion r
  return ⟨[.word .insertInto, .name r.schema.collection, .opening]
    ++ listed (cells.map fun c => [c.1]) ++ [.closing, .word .values, .opening]
    ++ listed (cells.map fun c => [c.2]) ++ [.closing, .word .returning] ++ columns r.schema⟩

/-- Write a record over the row with its key. When there is no other column to write, the row is
only read. -/
def update (r : Record) : Except Failure Statement := do
  let s := r.schema
  let sets ← (s.persisted.filter fun (i, _) => i ≠ s.primaryKey).mapM fun (i, f) => do
    let v ← bound f (r.value i)
    return [column f, .word .eq, v]
  let id ← bound s.keyField r.key
  if sets.isEmpty then return ⟨selection s ++ keyed s id⟩
  return ⟨[.word .update, .name s.collection, .word .set] ++ listed sets ++ keyed s id
    ++ [.word .returning] ++ columns s⟩

end Registrar.Statement
