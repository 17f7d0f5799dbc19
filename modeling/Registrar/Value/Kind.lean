/-!
# Kinds of fields

Every field is declared with one of seven kinds. A kind fixes which values the field holds, how a
literal in a query is read, and the column type its parameters are cast to.

See section 11 of the specification.
-/

namespace Registrar

/-- What a field holds. -/
inductive Kind where
  | string
  /-- A signed 64-bit number. -/
  | int
  /-- An unsigned 64-bit number. -/
  | uint
  | float
  | bool
  | sequence
  /-- A mapping with text keys. -/
  | struct
  deriving DecidableEq, Repr, Inhabited

namespace Kind

/-- Every kind. -/
def all : List Kind := [.string, .int, .uint, .float, .bool, .sequence, .struct]

/-- The name of a kind. -/
def name : Kind → String
  | .string => "string"
  | .int => "int"
  | .uint => "uint"
  | .float => "float"
  | .bool => "bool"
  | .sequence => "sequence"
  | .struct => "struct"

/-- The column type that parameters of a kind are cast to. -/
def columnType : Kind → String
  | .string => "text"
  | .int | .uint => "bigint"
  | .float => "double precision"
  | .bool => "boolean"
  | .sequence | .struct => "jsonb"

/-- The names a descriptor may use, with the kinds they stand for, in the order they are listed
when another name is refused. -/
def spellings : List (String × Kind) :=
  [("string", .string), ("int", .int), ("integer", .int), ("uint", .uint), ("double", .float),
   ("float", .float), ("bool", .bool), ("boolean", .bool), ("array", .sequence),
   ("sequence", .sequence), ("map", .struct), ("mapping", .struct), ("struct", .struct)]

/-- The kind a descriptor names. -/
def ofName? (name : String) : Option Kind := spellings.lookup name

theorem ofName?_name (k : Kind) : ofName? k.name = some k := by cases k <;> decide

end Kind

end Registrar
