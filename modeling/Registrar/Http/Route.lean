import Registrar.Text.Split

/-!
# Routes

Two paths are fixed. Below a base path, a path of one more part is that of a resource, and a path
of two more parts is that of one of its rows. Parts are kept as they are written, and none of them
is empty. Where a path is fixed, it is no resource's.

See section 19 of the specification.
-/

namespace Registrar.Http

/-- What a path leads to. -/
inductive Route where
  | health
  | version
  | resource (name : List Char)
  | row (resource id : List Char)
  deriving DecidableEq, Repr

namespace Route

/-- The base path for a prefix: a slash at its end does not count. -/
def base (pathPrefix : String) : List Char :=
  let cs := pathPrefix.toList
  if cs.getLast? = some '/' then cs.dropLast else cs

/-- What follows some characters in front of others. -/
def dropFront? : List Char → List Char → Option (List Char)
  | [], cs => some cs
  | p :: ps, c :: cs => if p = c then dropFront? ps cs else none
  | _ :: _, [] => none

/-- What the parts below the base path lead to. -/
def ofParts? : List (List Char) → Option Route
  | [name] => if name.isEmpty then none else some (.resource name)
  | [name, id] => if name.isEmpty || id.isEmpty then none else some (.row name id)
  | _ => none

/-- What a path leads to. -/
def ofPath? (pathPrefix : String) (path : List Char) : Option Route :=
  if path = "/health".toList then some .health
  else if path = "/version".toList then some .version
  else
    (dropFront? (base pathPrefix ++ ['/']) path).bind fun rest =>
      ofParts? (Text.splitChars '/' rest)

/-! ## Examples -/

example : ofPath? "/api/" "/api/notes/1".toList = some (.row ['n', 'o', 't', 'e', 's'] ['1']) := by
  decide
example : ofPath? "" "/health".toList = some .health := by decide
example : ofPath? "/api" "/api/".toList = none := by decide

end Route

end Registrar.Http
