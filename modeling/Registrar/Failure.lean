import Registrar.Descriptor.Fault
import Registrar.Query.Compile
import Registrar.Record.Merge
import Registrar.Record.Validation
import Registrar.Value.Literal

/-!
# Failures

What a request can fail with, and what its sender is told: a status, a code, a message and the
cause. The message of a failure that is not the sender's says nothing of what happened; the cause
does.

See section 20 of the specification.

Out of scope: notes in a log.
-/

namespace Registrar

/-- What cannot be found. -/
inductive Absence where
  /-- No row of a collection has the key. -/
  | row (collection : String)
  | resource (name : String)
  | other (text : String)
  deriving DecidableEq, Repr

/-- The absence in words. -/
def Absence.message : Absence → String
  | .row collection => "Could not find " ++ collection ++ "."
  | .resource name => "Unknown resource " ++ name ++ "."
  | .other text => text

/-- Why a request is refused. -/
inductive Objection where
  /-- The resource does not expose the operation. -/
  | notAllowed (op : Operation) (resource : String)
  /-- A literal is not of the kind of its field. -/
  | invalidLiteral (field literal : String) (kind : Kind)
  /-- A row of the collection has the key already. -/
  | duplicateKey (collection : String) (key : Value)
  /-- A number does not fit the column type. -/
  | outOfRange (n : UInt64)
  /-- The text that is to be a key is not of the key's kind. -/
  | invalidId (text : String)
  | other (text : String)

/-- The objection in words. -/
def Objection.message : Objection → String
  | .notAllowed op resource => op.name ++ " not allowed on " ++ resource
  | .invalidLiteral field literal kind =>
    field ++ ": '" ++ literal ++ "' is not a valid " ++ kind.name
  | .duplicateKey collection key => collection ++ " with key " ++ key.display ++ " already exists"
  | .outOfRange n => toString n.toNat ++ " is out of range for a bigint column"
  | .invalidId text => "invalid id '" ++ text ++ "'"
  | .other text => text

/-- What went wrong inside. -/
inductive Defect where
  /-- A query has a condition on a field that the resource does not have. -/
  | unknownConditionField (name : String)
  /-- A query is ordered by a field that the resource does not have. -/
  | unknownOrderField (name : String)
  /-- Records of the schema cannot be flagged as deleted. -/
  | noSoftDelete (schema : String)
  | other (text : String)
  deriving DecidableEq, Repr

/-- The defect in words. -/
def Defect.message : Defect → String
  | .unknownConditionField name => "condition on unknown field " ++ name
  | .unknownOrderField name => "order on unknown field " ++ name
  | .noSoftDelete schema => schema ++ " has no soft delete field"
  | .other text => text

/-- What a database reports. -/
inductive DatabaseFault where
  | rowNotFound
  | poolTimedOut
  deriving DecidableEq, Repr

/-- The report in words. -/
def DatabaseFault.message : DatabaseFault → String
  | .rowNotFound => "no rows returned by a query that expected to return at least one row"
  | .poolTimedOut => "pool timed out while waiting for an open connection"

/-- What stops a request so that no answer is given at all. -/
inductive Crash where
  /-- A row of a shared collection has no value at an index that the query looks at. -/
  | missingValue (index : Nat)
  /-- Every key that could be assigned is taken. -/
  | keysExhausted
  deriving DecidableEq, Repr

/-- What a request fails with. -/
inductive Failure where
  | config (fault : Descriptor.Fault)
  | notFound (what : Absence)
  | query (fault : Query.Fault)
  /-- The body of a request is no record of the collection. -/
  | decode (collection : String) (fault : DecodeFault)
  /-- A record does not pass the rules of its fields. -/
  | validation (collection : String) (verdict : Verdict)
  | badRequest (why : Objection)
  | merge (fault : MergeFault)
  | fatal (fault : Fatal)
  | record (fault : RecordFault)
  | internal (defect : Defect)
  | database (fault : DatabaseFault)
  | crash (cause : Crash)

namespace Failure

/-- What is said of a failure that is the system's. -/
def systemMessage : String :=
  "There was a problem with the system. If the problem persists contact the administrator."

/-- What is said of a request that is not understood. -/
def requestMessage : String :=
  "Problem performing request. Please alert the account owner if the problem continues."

/-- The status of a failure. -/
def status : Failure → Nat
  | .notFound _ | .database .rowNotFound => 404
  | .query _ | .decode _ _ | .badRequest _ => 400
  | .validation _ _ => 422
  | .config _ | .merge _ | .fatal _ | .record _ | .internal _ | .database .poolTimedOut
  | .crash _ => 500

/-- The sort of a failure. -/
def code : Failure → String
  | .config _ => "config_error"
  | .notFound _ => "not_found"
  | .query _ | .decode _ _ | .badRequest _ => "bad_request"
  | .validation _ _ => "validation_error"
  | .database _ => "database_error"
  | .merge _ | .fatal _ | .record _ | .internal _ | .crash _ => "internal_error"

/-- What the sender of a request is told. -/
def message : Failure → String
  | .config fault => fault.message
  | .notFound what => what.message
  | .query _ => requestMessage
  | .decode collection _ => collection ++ " json could not be parsed."
  | .validation collection _ => collection ++ " did not pass validation."
  | .badRequest why => why.message
  | .merge _ | .fatal _ | .record _ | .internal _ | .database _ | .crash _ => systemMessage

/-- What happened, in full. -/
def cause : Failure → String
  | .config fault => fault.message
  | .notFound what => what.message
  | .query fault => fault.message
  | .decode collection fault => collection ++ ": " ++ fault.message
  | .validation collection verdict => collection ++ ": " ++ verdict.message
  | .badRequest why => "bad request: " ++ why.message
  | .merge fault => fault.message
  | .fatal fault => fault.message
  | .record fault => fault.message
  | .internal defect => "internal: " ++ defect.message
  | .database fault => "database: " ++ fault.message
  | .crash (.missingValue index) => "no value at index " ++ toString index
  | .crash .keysExhausted => "no key is left to assign"

/-- The fields at fault, where a record fails its rules. -/
def details : Failure → Option Json
  | .validation _ verdict => some verdict.toJson
  | _ => none

/-- A failure as a document. -/
def toJson (f : Failure) : Json :=
  let details := match f.details with
    | some d => [("details", d)]
    | none => []
  .ofPairs [("error", .ofPairs ([("status", .nat f.status), ("code", .string f.code),
    ("message", .string f.message), ("cause", .string f.cause)] ++ details))]

end Failure

/-- A literal read by the kind of its field. -/
def Field.literal (f : Field) (text : String) : Except Failure Value :=
  match Value.parse? f.kind text with
  | some v => .ok v
  | none => .error (.badRequest (.invalidLiteral f.name text f.kind))

end Registrar
