/-!
# Whole-number literals

A literal is an optional sign and decimal digits. It is read from the left against a bound, and
the first thing wrong decides: a character that is no digit, or a digit that takes the value past
the bound (`Refusal`). Zeros in front are allowed.
-/

namespace Registrar.Decimal

/-- Why a whole-number literal is refused. -/
inductive Refusal where
  /-- There is nothing to read. -/
  | empty
  /-- A character is no digit. -/
  | digit
  /-- The value is above the greatest of its type. -/
  | high
  /-- The value is below the least of its type. -/
  | low
  deriving DecidableEq, Repr

/-- The reason in words. -/
def Refusal.message : Refusal → String
  | .empty => "cannot parse integer from empty string"
  | .digit => "invalid digit found in string"
  | .high => "number too large to fit in target type"
  | .low => "number too small to fit in target type"

/-- The value of a decimal digit. -/
def digit? (c : Char) : Option Nat := if c.isDigit then some (c.toNat - 48) else none

/-- The value of a run of digits. -/
def natOfDigits (cs : List Char) : Nat := cs.foldl (fun n c => n * 10 + (c.toNat - 48)) 0

/-- Read digits on from the value `acc`. Past `bound` the answer is `excess`. -/
def readDigits (bound : Nat) (excess : Refusal) : Nat → List Char → Except Refusal Nat
  | acc, [] => .ok acc
  | acc, c :: cs =>
    match digit? c with
    | none => .error .digit
    | some d =>
      let value := acc * 10 + d
      if value ≤ bound then readDigits bound excess value cs else .error excess

/-- Read a number without a minus sign, up to `bound`. -/
def readNat (bound : Nat) : List Char → Except Refusal Nat
  | [] => .error .empty
  | ['+'] => .error .digit
  | '+' :: cs => readDigits bound .high 0 cs
  | cs => readDigits bound .high 0 cs

/-- The greatest signed 64-bit number. -/
def maxInt64 : Nat := 0x7fffffffffffffff

/-- The greatest unsigned 64-bit number. -/
def maxUInt64 : Nat := 0xffffffffffffffff

/-- Read an unsigned 64-bit number. -/
def readUInt64 (cs : List Char) : Except Refusal UInt64 :=
  (readNat maxUInt64 cs).map UInt64.ofNat

/-- Read a signed 64-bit number. -/
def readInt64 : List Char → Except Refusal Int64
  | ['-'] => .error .digit
  | '-' :: cs => (readDigits (maxInt64 + 1) .low 0 cs).map fun n => Int64.ofInt (-n)
  | cs => (readNat maxInt64 cs).map Int64.ofNat

/-- Read an unsigned 64-bit number from a text. -/
def uint64? (s : String) : Option UInt64 := (readUInt64 s.toList).toOption

/-- Read a signed 64-bit number from a text. -/
def int64? (s : String) : Option Int64 := (readInt64 s.toList).toOption

/-! ## Examples -/

example : int64? "-9223372036854775808" = some Int64.minValue := by decide
example : int64? "9223372036854775808" = none := by decide
example : uint64? "+18446744073709551615" = some 18446744073709551615 := by decide
example : uint64? "-0" = none := by decide
example : int64? "" = none := by decide

end Registrar.Decimal
