import Registrar.Value.Basic

/-!
# Order of values

Two values of one sort are compared in the order of that sort: texts by code point, `false` before
`true`, whole numbers by value. Numbers of different sorts are compared as floats. Values that are
no numbers and differ in sort, and anything against a NaN, are not comparable.

See section 11 of the specification.
-/

namespace Registrar.Value

/-- Floats compared as numbers. -/
def compareFloats (x y : Float) : Option Ordering :=
  if x < y then some .lt
  else if y < x then some .gt
  else if x == y then some .eq
  else none

/-- Two values compared, if they are comparable. -/
def compare? : Value → Value → Option Ordering
  | .string a, .string b => some (compare a b)
  | .bool a, .bool b => some (compare a b)
  | .int a, .int b => some (compare a b)
  | .uint a, .uint b => some (compare a b)
  | a, b =>
    match a.toFloat?, b.toFloat? with
    | some x, some y => compareFloats x y
    | _, _ => none

/-- Whether two values name the same key: equal, or comparable and neither before the other. -/
def sameKey (a b : Value) : Bool := a == b || a.compare? b == some .eq

end Registrar.Value
