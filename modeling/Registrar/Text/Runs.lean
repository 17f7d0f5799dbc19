/-!
# Runs of code points

A table of a letter property is a list of runs. A run `(first, last, step, shift)` holds the code
points `first, first + step, …, last`, and sends each to the one `shift` away. `shift?` follows a
table forwards and `unshift?` backwards.
-/

namespace Registrar.Text

/-- Code points `first, first + step, …, last`, each sent `shift` away. -/
abbrev Run := Nat × Nat × Nat × Int

namespace Run

/-- Whether a run holds the code point `n`. -/
def holds (r : Run) (n : Nat) : Bool :=
  r.1 ≤ n && n ≤ r.2.1 && (n - r.1) % r.2.2.1 == 0

/-- The code point a run sends `n` to. -/
def target (r : Run) (n : Nat) : Nat := ((n : Int) + r.2.2.2).toNat

/-- The code point a run sends to `n`. -/
def source (r : Run) (n : Nat) : Nat := ((n : Int) - r.2.2.2).toNat

end Run

/-- Where a table of runs sends `n`. -/
def shift? (runs : List Run) (n : Nat) : Option Nat :=
  (runs.find? (·.holds n)).map (·.target n)

/-- What a table of runs sends to `n`. -/
def unshift? (runs : List Run) (n : Nat) : Option Nat :=
  (runs.find? fun r => r.holds (r.source n)).map (·.source n)

end Registrar.Text
