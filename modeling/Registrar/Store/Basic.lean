import Registrar.Store.Table

/-!
# Stores

A store keeps a table for every collection. Each of its four actions is one step: it runs to its
end on one table before another begins, and either answers or fails. An action that fails leaves
the store as it was.

See section 18 of the specification.

Out of scope: a lock that a crash has left unusable, and a store that keeps its rows in a database.
-/

namespace Registrar

/-- The tables of collections. -/
structure Store where
  tables : Entries Table

/-- Something done to a store, which may fail. -/
abbrev Action (α : Type) : Type := ExceptT Failure (StateM Store) α

namespace Store

/-- The store without tables. -/
def empty : Store := ⟨[]⟩

/-- The table of a collection. -/
def table (s : Store) (collection : String) : Table :=
  (Entries.get? s.tables collection).getD .empty

/-- Put a table in place of the one of a collection. -/
def putTable (s : Store) (collection : String) (t : Table) : Store :=
  ⟨s.tables.put collection t⟩

theorem table_putTable (s : Store) (c d : String) (t : Table) :
    (s.putTable c t).table d = if c = d then t else s.table d := by
  simp only [table, putTable, Entries.get?_put]
  split <;> rfl

theorem putTable_putTable (s : Store) (c : String) (t t' : Table) :
    (s.putTable c t).putTable c t' = s.putTable c t' :=
  congrArg Store.mk (Entries.put_put s.tables c t t')

/-- Read a table. -/
def query {α : Type} (collection : String) (f : Table → Except Failure α) : Action α :=
  fun s => (f (s.table collection), s)

/-- Change a table, unless the change fails. -/
def change {α : Type} (collection : String) (f : Table → Except Failure (α × Table)) : Action α :=
  fun s =>
    match f (s.table collection) with
    | .ok (a, t) => (.ok a, s.putTable collection t)
    | .error failure => (.error failure, s)

/-- The rows of a resource that a query asks for. -/
def select (schema : Schema) (q : Query) : Action (List Record) :=
  query schema.collection fun t => t.select schema q

/-- The row of a resource with a key. -/
def find (schema : Schema) (id : Value) : Action (Option Record) :=
  query schema.collection fun t => .ok (t.find? id)

/-- Add a record, and give back what is stored. -/
def insert (r : Record) : Action Record := change r.schema.collection fun t => t.insert r

/-- Write a record over the row with its key, and give back what is stored. -/
def update (r : Record) : Action Record := change r.schema.collection fun t => t.update r

end Store

end Registrar
