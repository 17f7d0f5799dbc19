import Registrar.Text.Hex
import Registrar.Text.Split
import Registrar.Text.Utf8

/-!
# Percent encoding

In an address a byte may be written as a percent sign and two hexadecimal digits. A percent sign
that no two digits follow stands for itself. A part of a path must come out as well-formed text
(`decode?`); the parameters of a query are forgiven what is not (`params`).
-/

namespace Registrar.Http.Percent

/-- The bytes that are written. -/
def bytes : List Char → List UInt8
  | [] => []
  | '%' :: a :: b :: rest =>
    match Text.hexValue? a, Text.hexValue? b with
    | some high, some low => UInt8.ofNat (high * 16 + low) :: bytes rest
    | _, _ => 0x25 :: bytes (a :: b :: rest)
  | c :: rest => String.utf8EncodeChar c ++ bytes rest

/-- The text that is written, if it is well formed. -/
def decode? (cs : List Char) : Option String := Text.Utf8.decode? (bytes cs)

/-- A part of a parameter: a plus sign is a blank, and malformed bytes are replaced. -/
def decodePart (cs : List Char) : String :=
  Text.Utf8.decodeLossy (bytes (cs.map fun c => if c = '+' then ' ' else c))

/-- A parameter: the key is what stands before the first equals sign. -/
def param (cs : List Char) : String × String :=
  (decodePart (cs.takeWhile (· != '=')), decodePart (cs.dropWhile (· != '=')).tail)

/-- The parameters of a query, which are separated by ampersands. Empty ones are passed over. -/
def params (query : List Char) : List (String × String) :=
  ((Text.splitChars '&' query).filter (!·.isEmpty)).map param

/-! ## Examples -/

example : decode? "a%2Fb%".toList = some "a/b%" := by cbv
example : decode? "%ff".toList = none := by cbv
example : params "a=1&&b+c=%zz".toList = [("a", "1"), ("b c", "%zz")] := by cbv

end Registrar.Http.Percent
