/-!
# Hexadecimal digits

The values of hexadecimal digits, in either case, and the digits of bytes, in lower case.
-/

namespace Registrar.Text

/-- The value of a hexadecimal digit. -/
def hexValue? (c : Char) : Option Nat :=
  if c.isDigit then some (c.toNat - 48)
  else if 'a' ≤ c ∧ c ≤ 'f' then some (c.toNat - 87)
  else if 'A' ≤ c ∧ c ≤ 'F' then some (c.toNat - 55)
  else none

/-- The hexadecimal digit of a value below sixteen. -/
def hexDigit (n : Nat) : Char := Nat.digitChar n

theorem hexValue?_hexDigit (n : Fin 16) : hexValue? (hexDigit n) = some n.val := by
  revert n; decide

/-- A byte in two hexadecimal digits. -/
def hexByte (b : UInt8) : List Char := [hexDigit (b.toNat / 16), hexDigit (b.toNat % 16)]

end Registrar.Text
