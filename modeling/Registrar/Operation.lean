/-!
# Operations

A resource exposes some of five operations.

See section 12 of the specification.
-/

namespace Registrar

/-- What may be asked of a resource. -/
inductive Operation where
  | list
  | read
  | create
  | update
  | delete
  deriving DecidableEq, Repr

namespace Operation

/-- Every operation. -/
def all : List Operation := [.list, .read, .create, .update, .delete]

/-- The name of an operation. -/
def name : Operation → String
  | .list => "list"
  | .read => "read"
  | .create => "create"
  | .update => "update"
  | .delete => "delete"

/-- The names a descriptor may use, with the operations they stand for. -/
def spellings : List (String × Operation) := all.map fun op => (op.name, op)

theorem mem_all (op : Operation) : op ∈ all := by cases op <;> decide

end Operation

end Registrar
