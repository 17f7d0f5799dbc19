import Registrar.Json.Basic
import Registrar.Decimal.Shortest
import Registrar.Text.Hex

/-!
# Compact JSON text

A document is written without blanks, members in their order. In a text only the quote, the
backslash and the control characters are escaped. A float is written with its shortest digits:
positionally while its decimal exponent lies between -5 and 15, and then with a point always, else
with one digit before the point and a signed exponent.
-/

namespace Registrar.Json

/-- A character as it is written within quotes. -/
def escape (c : Char) : List Char :=
  match c with
  | '"' => ['\\', '"']
  | '\\' => ['\\', '\\']
  | '\n' => ['\\', 'n']
  | '\r' => ['\\', 'r']
  | '\t' => ['\\', 't']
  | '\x08' => ['\\', 'b']
  | '\x0c' => ['\\', 'f']
  | c =>
    if c.toNat < 32 then
      ['\\', 'u', '0', '0', Text.hexDigit (c.toNat / 16), Text.hexDigit (c.toNat % 16)]
    else [c]

/-- A text in quotes. -/
def quoted (s : String) : String :=
  String.ofList ('"' :: s.toList.flatMap escape ++ ['"'])

/-- The least decimal exponent written positionally, and the greatest. -/
def positional : Int × Int := (-5, 15)

/-- A decimal number as text. -/
def decimalText (s : Decimal.Scientific) : String :=
  let ds := Nat.toDigits 10 s.digits
  let n := ds.length
  let exponent : Int := s.exponent + n - 1
  let zeros (k : Int) : List Char := List.replicate k.toNat '0'
  let body :=
    if positional.1 ≤ exponent ∧ exponent ≤ positional.2 then
      if 0 ≤ s.exponent then ds ++ zeros s.exponent ++ ['.', '0']
      else if 0 ≤ exponent then
        let whole := exponent.toNat + 1
        ds.take whole ++ '.' :: ds.drop whole
      else '0' :: '.' :: zeros (-exponent - 1) ++ ds
    else
      let sign := if exponent < 0 then '-' else '+'
      let mantissa := match ds with
        | [d] => [d]
        | d :: rest => d :: '.' :: rest
        | [] => []
      mantissa ++ 'e' :: sign :: Nat.toDigits 10 exponent.natAbs
  String.ofList body

/-- A finite float as text. -/
def floatText (x : Float) : String :=
  let bits := x.toBits.toNat
  let magnitude := bits % Decimal.signBit
  let body :=
    if magnitude = 0 then "0.0"
    else decimalText (Decimal.shortest (Decimal.Binary.ofBits magnitude))
  if bits = magnitude then body else "-" ++ body

/-- A number as text. -/
def numberText : Number → String
  | .nat n => toString n.toNat
  | .neg n _ => toString n.toInt
  | .float x _ => floatText x

mutual

/-- A document as text. -/
def text : Json → String
  | .null => "null"
  | .bool b => if b then "true" else "false"
  | .number n => numberText n
  | .string s => quoted s
  | .array items => "[" ++ ",".intercalate (itemTexts items) ++ "]"
  | .object members => "\x7b" ++ ",".intercalate (memberTexts members) ++ "\x7d"

/-- The items of an array as texts. -/
def itemTexts : List Json → List String
  | [] => []
  | j :: rest => text j :: itemTexts rest

/-- The members of an object as texts. -/
def memberTexts : List (String × Json) → List String
  | [] => []
  | (k, j) :: rest => (quoted k ++ ":" ++ text j) :: memberTexts rest

end

/-! ## Examples -/

example : decimalText ⟨1, 15⟩ = "1000000000000000.0" := by decide +kernel
example : decimalText ⟨1, 16⟩ = "1e+16" := by decide +kernel
example : decimalText ⟨15, 299⟩ = "1.5e+300" := by decide +kernel
example : decimalText ⟨1, -5⟩ = "0.00001" := by decide +kernel
example : decimalText ⟨1, -6⟩ = "1e-6" := by decide +kernel
example : decimalText ⟨4350, -3⟩ = "4.350" := by decide +kernel

end Registrar.Json
