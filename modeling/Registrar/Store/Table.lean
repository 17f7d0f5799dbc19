import Registrar.Sorting
import Registrar.Store.Filter

/-!
# Tables

A table keeps rows in the order they were inserted in. A row is found by its key. A record that
comes without a key may be given one, the least number above the last one given that no row has;
the number of the last one is the table's counter. What is not persisted is not kept: a stored
record has zeros there.

See section 18 of the specification.

Out of scope: what becomes of rows where the values to sort by have no strict weak order, as beside
a NaN or among values of several kinds. A sort may stop there, or leave the rows in any order;
`Table.arrange` leaves them in one.
-/

namespace Registrar

/-- A record as it is stored: fields without a column hold their zeros. -/
def Record.stored (r : Record) : Record where
  schema := r.schema
  values := List.zipWith (fun f v => if f.isPersisted then v else .zero f.kind) r.schema.fields
    r.values
  length_values := by simp [r.length_values]

/-- The rows of a collection. -/
structure Table where
  rows : List Record
  /-- The last number given as a key. -/
  counter : Nat

namespace Table

/-- The table without rows. -/
def empty : Table := ⟨[], 0⟩

/-! ## Finding rows -/

/-- The row with a key. -/
def find? (t : Table) (id : Value) : Option Record := t.rows.find? fun r => r.key.sameKey id

/-- Whether a row has a key. -/
def holds (t : Table) (id : Value) : Bool := t.rows.any fun r => r.key.sameKey id

/-- Whether a value must come before another in an order. Values that are not comparable stay as
they are. -/
def before (d : Direction) (a b : Value) : Bool :=
  match d with
  | .ascending => a.compare? b == some .lt
  | .descending => a.compare? b == some .gt

/-- Sort rows by the values at an index. What a sort makes of them is settled where `before` is a
strict weak order on the values there, and only there. -/
def arrange (index : Nat) (d : Direction) (rows : List Record) : Except Failure (List Record) :=
  if rows.length < 2 then .ok rows
  else do
    let keyed ← rows.mapM fun r =>
      match r.values[index]? with
      | some v => Except.ok (v, r)
      | none => Except.error (Failure.crash (.missingValue index))
    return (Sorting.sort (fun a b => before d a.1 b.1) keyed).map Prod.snd

/-- The index that rows are sorted by. -/
def orderIndex (s : Schema) (o : Order) : Except Failure Nat :=
  match s.index? o.field with
  | some i => .ok i.val
  | none => .error (.internal (.unknownOrderField o.field))

/-- The rows that a query asks for: those that meet the conditions, in order, cut to the window. -/
def select (t : Table) (s : Schema) (q : Query) : Except Failure (List Record) := do
  let filters ← q.conditions.mapM (Filter.ofCondition s)
  let order ← match q.order with
    | some o => (orderIndex s o).map fun i => some (i, o.direction)
    | none => pure none
  let rows ← Filter.keep filters t.rows
  let rows ← match order with
    | some (i, d) => arrange i d rows
    | none => pure rows
  return (rows.drop q.offset).take q.limit

/-! ## Writing rows -/

/-- The key made of a number, for a key field of some kind. -/
def assigned (k : Kind) (n : Nat) : Value :=
  if k = .string then .string (toString n) else .int (Int64.ofNat n)

/-- The least number above `n` whose key no row has, among the next `span` ones. -/
def freeFrom? (t : Table) (k : Kind) : (span n : Nat) → Option Nat
  | 0, _ => none
  | span + 1, n =>
    if t.holds (assigned k (n + 1)) then freeFrom? t k span (n + 1) else some (n + 1)

/-- The number for the next key: the least one above the counter that is free. -/
def nextNumber? (t : Table) (k : Kind) : Option Nat :=
  freeFrom? t k (Decimal.maxInt64 - t.counter) t.counter

/-- Whether a record is given a key. -/
def wantsKey (r : Record) : Bool := r.schema.autoKey && r.key.isZero

/-- A record with the key it is to be stored under, and the counter then. -/
def withKey (t : Table) (r : Record) : Except Failure (Record × Nat) :=
  if wantsKey r then
    match t.nextNumber? r.schema.keyField.kind with
    | none => .error (.crash .keysExhausted)
    | some n =>
      match r.setAt r.schema.primaryKey (assigned r.schema.keyField.kind n) with
      | .ok keyed => .ok (keyed, n)
      | .error fault => .error (.record fault)
  else if t.holds r.key then .error (.badRequest (.duplicateKey r.schema.collection r.key))
  else .ok (r, t.counter)

/-- Add a record, and give back what is stored. -/
def insert (t : Table) (r : Record) : Except Failure (Record × Table) := do
  let (keyed, counter) ← t.withKey r
  return (keyed.stored, ⟨t.rows ++ [keyed.stored], counter⟩)

/-- Replace the first row with a key. -/
def replace (id : Value) (stored : Record) : List Record → List Record
  | [] => []
  | r :: rest => if r.key.sameKey id then stored :: rest else r :: replace id stored rest

/-- Write a record over the row with its key, and give back what is stored. -/
def update (t : Table) (r : Record) : Except Failure (Record × Table) :=
  if t.holds r.key then .ok (r.stored, { t with rows := replace r.key r.stored t.rows })
  else .error (.notFound (.row r.schema.collection))

end Table

end Registrar
