import Registrar.Registry
import Registrar.Service.Lifecycle
import Registrar.Store.Basic

/-!
# The service of resources

The five operations that resources expose, over a store. A write comes in two halves: what is to
be written is worked out from what is there and from the request, without touching the store
(`created`, `revised`, `deleted`), and then written in one step. Between the finding of a row and
the writing of it other requests may take their steps.

See section 18 of the specification.

Out of scope: the waiting of one request for another; which steps come between its halves is left
open.
-/

namespace Registrar

/-- The resources that are served, and the lifecycles of their records. -/
structure Service where
  registry : Registry
  /-- The lifecycle of records that have none of their own. -/
  lifecycle : Lifecycle
  /-- The lifecycles of the records of some resources. -/
  own : Entries Lifecycle

namespace Service

/-- The lifecycle of the records of a resource. -/
def lifecycleOf (sv : Service) (s : Schema) : Lifecycle :=
  (Entries.get? sv.own s.name).getD sv.lifecycle

/-- The schema of a resource that exposes an operation. -/
def schema (sv : Service) (resource : String) (op : Operation) : Except Failure Schema :=
  match sv.registry.get? resource with
  | none => .error (.notFound (.resource resource))
  | some s => if s.allows op then .ok s else .error (.badRequest (.notAllowed op resource))

/-! ## What is to be written -/

/-- The record of a document. -/
def decode (s : Schema) (body : Json) : Except Failure Record :=
  match Record.ofJson s body with
  | .ok r => .ok r
  | .error fault => .error (.decode s.collection fault)

/-- The record that a document creates. -/
def created (sv : Service) (now : Int64) (s : Schema) (body : Json) : Except Failure Record := do
  (sv.lifecycleOf s).preInsert now (← decode s body)

/-- A record with the changes of a document: the fields that are tagged for it are taken from the
document. -/
def revised (sv : Service) (now : Int64) (s : Schema) (body : Json) (current : Record) :
    Except Failure Record := do
  let patch ← decode s body
  match (MergeRule.tagged s).apply patch current with
  | .error fault => throw (.merge fault)
  | .ok merged => (sv.lifecycleOf s).preUpdate now merged

/-- A record flagged as deleted. -/
def deleted (sv : Service) (now : Int64) (s : Schema) (current : Record) :
    Except Failure Record :=
  match current.flagged? with
  | none => .error (.internal (.noSoftDelete s.name))
  | some flagged => (sv.lifecycleOf s).preUpdate now flagged

/-! ## Operations -/

/-- The row with a key. -/
def fetch (s : Schema) (id : Value) : Action Record := do
  match ← Store.find s id with
  | some r => return r
  | none => throw (.notFound (.row s.collection))

/-- The rows that parameters ask for, as documents. -/
def list (sv : Service) (resource : String) (params : List (String × String)) :
    Action (List Json) := do
  let s ← liftExcept (sv.schema resource .list)
  let q ← match Query.compile s params with
    | .ok q => pure q
    | .error fault => throw (.query fault)
  let rows ← Store.select s q
  return rows.map fun r =>
    match q.fields with
    | some keys => r.project keys
    | none => r.toJson

/-- The row with a key. -/
def read (sv : Service) (resource : String) (id : Value) : Action Record := do
  let s ← liftExcept (sv.schema resource .read)
  fetch s id

/-- Insert the record of a document. -/
def create (sv : Service) (now : Int64) (resource : String) (body : Json) : Action Record := do
  let s ← liftExcept (sv.schema resource .create)
  let r ← liftExcept (sv.created now s body)
  Store.insert r

/-- Change the row with a key as a document says. -/
def update (sv : Service) (now : Int64) (resource : String) (id : Value) (body : Json) :
    Action Record := do
  let s ← liftExcept (sv.schema resource .update)
  let current ← fetch s id
  let r ← liftExcept (sv.revised now s body current)
  Store.update r

/-- Flag the row with a key as deleted. -/
def delete (sv : Service) (now : Int64) (resource : String) (id : Value) : Action Record := do
  let s ← liftExcept (sv.schema resource .delete)
  let current ← fetch s id
  let r ← liftExcept (sv.deleted now s current)
  Store.update r

end Service

end Registrar
