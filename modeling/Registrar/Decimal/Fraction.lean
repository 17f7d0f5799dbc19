import Registrar.Decimal.Whole

/-!
# Floating-point literals

A literal is an optional sign, then digits with at most one point among them and an optional
exponent; or one of the words `inf`, `infinity` and `nan` in any case. Its value is the float
nearest to the number written, which may be an infinity (`float?`).
-/

namespace Registrar.Decimal

/-- The number `digits · 10 ^ exponent`. -/
structure Scientific where
  digits : Nat
  exponent : Int
  deriving DecidableEq, Repr

/-- How many decimal digits a number has. -/
def digitCount (n : Nat) : Nat := if n < 10 then 1 else digitCount (n / 10) + 1

/-- The float nearest to a decimal number. Magnitudes that are far beyond every float, or far below
the least, are settled by counting digits. -/
def Scientific.toFloat (s : Scientific) : Float :=
  let magnitude := digitCount s.digits + s.exponent
  if s.digits = 0 ∨ magnitude < -400 then 0
  else if 400 < magnitude then Float.ofBits 0x7ff0000000000000
  else Float.ofScientific s.digits (s.exponent < 0) s.exponent.natAbs

/-- Read the exponent of a literal: nothing, or a mark, an optional sign and digits. -/
def readExponent : List Char → Option Int
  | [] => some 0
  | c :: cs =>
    if c = 'e' ∨ c = 'E' then
      let (negative, ds) :=
        match cs with
        | '+' :: ds => (false, ds)
        | '-' :: ds => (true, ds)
        | ds => (false, ds)
      if ds.isEmpty || !ds.all Char.isDigit then none
      else
        let n : Int := natOfDigits ds
        some (if negative then -n else n)
    else none

/-- Read digits, an optional point with digits after it, and an optional exponent. A digit must
stand on one side of the point at least. -/
def readScientific (cs : List Char) : Option Scientific :=
  let whole := cs.takeWhile Char.isDigit
  let rest := cs.dropWhile Char.isDigit
  let (fraction, rest) :=
    match rest with
    | '.' :: more => (more.takeWhile Char.isDigit, more.dropWhile Char.isDigit)
    | more => ([], more)
  if whole.isEmpty && fraction.isEmpty then none
  else
    (readExponent rest).map fun e => ⟨natOfDigits (whole ++ fraction), e - fraction.length⟩

/-- Read a literal without its sign. -/
def readMagnitude (cs : List Char) : Option Float :=
  let word := String.ofList (cs.map Char.toLower)
  if word = "inf" ∨ word = "infinity" then some (Float.ofBits 0x7ff0000000000000)
  else if word = "nan" then some (Float.ofBits 0x7ff8000000000000)
  else (readScientific cs).map Scientific.toFloat

/-- Read a floating-point literal. -/
def float? (s : String) : Option Float :=
  match s.toList with
  | '+' :: cs => readMagnitude cs
  | '-' :: cs => (readMagnitude cs).map (-·)
  | cs => readMagnitude cs

/-! ## Examples -/

example : readScientific "4.25".toList = some ⟨425, -2⟩ := by decide
example : readScientific ".5e3".toList = some ⟨5, 2⟩ := by decide
example : readScientific ".".toList = none := by decide
example : readScientific "1e".toList = none := by decide

end Registrar.Decimal
