import Registrar.Decimal.Fraction

/-!
# Shortest decimal digits of a float

A finite float stands for an interval of real numbers, those that round to it. `shortest` finds
the decimal number with the fewest digits in that interval, and of those the one nearest to the
float itself. It looks at grids of one digit, two digits and so on; on each grid only the two
neighbours of the float can be nearest, and the first grid with a neighbour inside the interval
settles the digits. All arithmetic is exact.
-/

namespace Registrar.Decimal

/-- A positive float as `mantissa · 2 ^ exponent`, and the interval that rounds to it: its ends lie
`below` and `above` quarters of the last place away, and belong to it when `closed`. -/
structure Binary where
  mantissa : Nat
  exponent : Int
  below : Nat
  above : Nat
  closed : Bool
  deriving DecidableEq, Repr

/-- The bit of a float that holds its sign. -/
def signBit : Nat := 0x8000000000000000

/-- The bit above the stored digits of a mantissa, which is not stored. -/
def hiddenBit : Nat := 0x10000000000000

/-- Take a positive finite float apart. -/
def Binary.ofBits (bits : Nat) : Binary :=
  let field : Nat := bits / hiddenBit % 0x800
  let low := bits % hiddenBit
  let mantissa := if field = 0 then low else low + hiddenBit
  { mantissa
    exponent := (if field = 0 then 1 else (field : Int)) - 1075
    below := if low = 0 ∧ 1 < field then 1 else 2
    above := 2
    closed := mantissa % 2 = 0 }

/-- The exponent `k` with `10 ^ (k - 1) ≤ num / den < 10 ^ k`. -/
def leading (num den : Nat) : Int :=
  if den ≤ num then digitCount (num / den) else 1 - digitCount (den / num)

/-- Whether `a` stays below `b`, or reaches it where the end belongs to the interval. -/
def within (closed : Bool) (a b : Nat) : Bool := if closed then a ≤ b else a < b

/-- The nearest number on the grid of `n` digits, if it lies in the interval. -/
def onGrid (x : Binary) (n : Nat) : Option Scientific :=
  let up := Nat.pow 2 x.exponent.toNat
  let den := 4 * Nat.pow 2 (-x.exponent).toNat
  let num := 4 * x.mantissa * up
  let grid := leading num den - n
  let scale := Nat.pow 10 (-grid).toNat
  let unit := den * Nat.pow 10 grid.toNat
  let value := num * scale
  let least := (4 * x.mantissa - x.below) * up * scale
  let most := (4 * x.mantissa + x.above) * up * scale
  let q := value / unit
  let left := value % unit
  let down := within x.closed least (q * unit)
  let next := within x.closed ((q + 1) * unit) most
  let nearer := 2 * left < unit || (2 * left == unit && q % 2 == 0)
  if down && (nearer || !next) then some ⟨q, grid⟩
  else if next then some ⟨q + 1, grid⟩
  else none

/-- Take the zeros at the end of the digits into the exponent. -/
def Scientific.strip (s : Scientific) : Scientific :=
  if h : s.digits ≠ 0 ∧ s.digits % 10 = 0 then
    Scientific.strip ⟨s.digits / 10, s.exponent + 1⟩
  else s
termination_by s.digits
decreasing_by exact Nat.div_lt_self (Nat.pos_of_ne_zero h.1) (by decide)

/-- The shortest decimal number that reads back as a positive finite float. Seventeen digits are
always enough. -/
def shortest (x : Binary) : Scientific :=
  match (List.range 17).findSome? fun n => onGrid x (n + 1) with
  | some s => s.strip
  | none => ⟨x.mantissa, x.exponent⟩

end Registrar.Decimal
