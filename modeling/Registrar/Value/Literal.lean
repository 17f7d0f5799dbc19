import Registrar.Value.Json
import Registrar.Json.Draft
import Registrar.Text.Blank

/-!
# Literals

A query names values by literals, and the kind of the field says how one is read: a text stands
for itself, a number or a truth value may have blanks around it, and a sequence or a mapping is
written as a document.

See section 11 of the specification.
-/

namespace Registrar.Value

/-- Read a truth value: `true`, `1`, `false` or `0`, in any case. -/
def bool? (s : String) : Option Bool :=
  let word := String.ofList (s.toList.map Char.toLower)
  if word = "true" ∨ word = "1" then some true
  else if word = "false" ∨ word = "0" then some false
  else none

/-- Read a literal of kind `k`. -/
def parse? (k : Kind) (s : String) : Option Value :=
  match k with
  | .string => some (.string s)
  | .int => (Decimal.int64? (Text.trim s)).map .int
  | .uint => (Decimal.uint64? (Text.trim s)).map .uint
  | .float => (Decimal.float? (Text.trim s)).map .float
  | .bool => (bool? (Text.trim s)).map .bool
  | .sequence => (Json.parse? s).bind fun j => coerce? .sequence (ofJson j)
  | .struct => (Json.parse? s).bind fun j => coerce? .struct (ofJson j)

end Registrar.Value
