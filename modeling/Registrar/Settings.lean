import Registrar.Decimal.Whole
import Registrar.Text.Blank

/-!
# Settings

What a server is started with, looked up by name. A name that is not given, or only with blanks,
takes its default.

See section 22 of the specification.

Out of scope: the environment of the process, in which the names are looked up.
-/

namespace Registrar

/-- What a server is started with. -/
structure Settings where
  /-- Where the database is; without one, rows are kept in memory. -/
  databaseUrl : Option String
  bindAddress : String
  /-- Where the descriptor document is. -/
  resourcesPath : String
  apiPrefix : String
  /-- How many bytes the body of a request may have. -/
  maxBodyBytes : UInt64
  deriving DecidableEq, Repr

namespace Settings

/-- The limit for bodies is not a number of bytes. -/
structure Fault where
  /-- The limit as it was given. -/
  given : String
  refusal : Decimal.Refusal
  deriving DecidableEq, Repr

/-- The fault in words. -/
def Fault.message (f : Fault) : String :=
  "config load: MAX_BODY_BYTES '" ++ f.given ++ "': " ++ f.refusal.message

/-- The settings when nothing is given. -/
def standard : Settings := ⟨none, "0.0.0.0:3000", "demos/resources.json", "/api/v1", 1048576⟩

/-- What is given under a name, unless it is blank. -/
def given? (lookup : String → Option String) (name : String) : Option String :=
  (lookup name).filter fun text => !(Text.trim text).isEmpty

/-- The limit for bodies. -/
def maxBody : Option String → Except Fault UInt64
  | none => .ok standard.maxBodyBytes
  | some text =>
    match Decimal.readUInt64 (Text.trim text).toList with
    | .ok n => .ok n
    | .error refusal => .error ⟨text, refusal⟩

/-- The settings that are looked up by name. -/
def ofLookup (lookup : String → Option String) : Except Fault Settings := do
  let maxBodyBytes ← maxBody (given? lookup "MAX_BODY_BYTES")
  return {
    databaseUrl := given? lookup "DATABASE_URL"
    bindAddress := (given? lookup "BIND_ADDR").getD standard.bindAddress
    resourcesPath := (given? lookup "RESOURCES_PATH").getD standard.resourcesPath
    apiPrefix := (given? lookup "API_PREFIX").getD standard.apiPrefix
    maxBodyBytes := maxBodyBytes }

end Settings

end Registrar
