import Registrar.Statement.Basic

/-!
# Statements as they grow

A statement grows in a buffer: a value is bound at the end of those bound so far, and its number is
how many there are then, as a word of 32 bits. Placeholders, columns and conditions are texts, kept
in lists until the text of the whole is put together from them.

See section 15 of the specification.

Out of scope: the running of a statement on a database.
-/

namespace Registrar

/-- A statement as it grows, with the values bound so far. -/
structure Buffer where
  text : String
  params : List Bind

/-- Something done to a buffer, which may fail. -/
abbrev Building (α : Type) : Type := StateT Buffer (Except Failure) α

namespace Buffer

/-- The buffer without text and values. -/
def empty : Buffer := ⟨"", []⟩

/-- A name in quotes; a quote inside it is written twice. -/
def quoted (name : String) : String := String.ofList ('"' :: Piece.escape name.toList ++ ['"'])

/-- Bind a value behind those bound so far, and give back its number. -/
def pushParam (v : Value) : Building UInt32 := do
  let bind ← Bind.ofValue v
  modify fun q => { q with params := q.params ++ [bind] }
  let q ← get
  return UInt32.ofNat q.params.length

/-- The placeholder of a newly bound value for a field. -/
def placeholder (f : Field) (v : Value) : Building String := do
  let n ← pushParam v
  return "$" ++ toString n.toNat ++ "::" ++ f.kind.columnType

/-- The placeholder of a literal for a field. -/
def literal (f : Field) (text : String) : Building String := do
  let v ← f.literal text
  placeholder f v

/-- A word with a blank before it and one behind it. -/
def spaced (w : Word) : String := " " ++ w.text ++ " "

/-- Texts with commas between them. -/
def commas (texts : List String) : String := ", ".intercalate texts

/-- The columns of a schema. -/
def columns (s : Schema) : String := commas (s.persisted.map fun e => quoted e.2.columnName)

/-- The columns of a table. -/
def selection (s : Schema) : String :=
  Word.select.text ++ " " ++ columns s ++ spaced .from ++ quoted s.collection

/-- A condition on the rows of a schema. -/
def condition (s : Schema) (c : Condition) : Building String :=
  match s.field? c.field with
  | none => throw (.internal (.unknownConditionField c.field))
  | some f =>
    match c.operand with
    | .single text => do
      let value ← literal f text
      return quoted f.columnName ++ spaced (.ofOperator c.operator) ++ value
    | .many texts => do
      let values ← texts.mapM (literal f)
      return quoted f.columnName ++ spaced .among ++ "(" ++ commas values ++ ")"

/-- The order of the rows of a schema: by its key, unless another is asked for. -/
def orderClause (s : Schema) : Option Order → Building String
  | none => return spaced .orderBy ++ quoted s.keyField.columnName
  | some o =>
    match s.field? o.field with
    | none => throw (.internal (.unknownOrderField o.field))
    | some f =>
      return spaced .orderBy ++ quoted f.columnName ++ " " ++ (Word.ofDirection o.direction).text

/-- Build a text in a buffer of its own, and put it there. -/
def finish (build : Building String) : Except Failure Buffer := do
  let (text, q) ← build.run empty
  return { q with text := text }

/-- The rows that a query asks for. -/
def select (s : Schema) (q : Query) : Except Failure Buffer := finish do
  let conditions ← q.conditions.mapM (condition s)
  let whereClause :=
    if conditions.isEmpty then "" else spaced .where ++ (spaced .and).intercalate conditions
  let order ← orderClause s q.order
  return selection s ++ whereClause ++ order ++ spaced .limit ++ toString q.limit
    ++ spaced .offset ++ toString q.offset

/-- The row with a key. -/
def keyed (s : Schema) (id : String) : String :=
  spaced .where ++ quoted s.keyField.columnName ++ spaced .eq ++ id

/-- The row with a key. -/
def selectById (s : Schema) (id : Value) : Except Failure Buffer := finish do
  let id ← placeholder s.keyField id
  return selection s ++ keyed s id

/-- The columns that a record is inserted with, and the placeholders of their values: both lists
grow at once. A key that the database is to assign is left out. -/
def insertion (r : Record) : List (Fin r.schema.fields.length × Field) →
    (columns values : List String) → Building (List String × List String)
  | [], columns, values => return (columns, values)
  | (i, f) :: rest, columns, values => do
    if i = r.schema.primaryKey && r.schema.autoKey && (r.value i).isZero then
      insertion r rest columns values
    else
      let value ← placeholder f (r.value i)
      insertion r rest (columns ++ [quoted f.columnName]) (values ++ [value])

/-- Insert a record. -/
def insert (r : Record) : Except Failure Buffer := finish do
  let lists ← insertion r r.schema.persisted [] []
  return Word.insertInto.text ++ " " ++ quoted r.schema.collection ++ " (" ++ commas lists.1 ++ ")"
    ++ spaced .values ++ "(" ++ commas lists.2 ++ ")" ++ spaced .returning ++ columns r.schema

/-- What the columns of a record but its key are set to. -/
def assignments (r : Record) : List (Fin r.schema.fields.length × Field) → (sets : List String) →
    Building (List String)
  | [], sets => return sets
  | (i, f) :: rest, sets => do
    if i = r.schema.primaryKey then assignments r rest sets
    else
      let value ← placeholder f (r.value i)
      assignments r rest (sets ++ [quoted f.columnName ++ spaced .eq ++ value])

/-- Write a record over the row with its key. When there is no other column to write, the row is
only read. -/
def update (r : Record) : Except Failure Buffer := finish do
  let s := r.schema
  let sets ← assignments r s.persisted []
  let id ← placeholder s.keyField r.key
  if sets.isEmpty then return selection s ++ keyed s id
  return Word.update.text ++ " " ++ quoted s.collection ++ spaced .set ++ commas sets ++ keyed s id
    ++ spaced .returning ++ columns s

end Buffer

end Registrar
