import Registrar.Value.Basic
import Registrar.Pattern.Formats

/-!
# Rules

A rule says what a value must be. Most rules are tests that hold or do not (`Test.holds`). Two
take rules of their own: `each` asks them of every item of a sequence, and `panic` turns a failure
among them into one that stops the whole validation.

`check` has three outcomes, and the two that are no success name the rule at fault. A list of
rules is run in order up to the first that does not pass (`checkAll`).

* `check_panic_ne_fail`: a `panic` rule passes or is fatal; it never merely fails.

See sections 4.2 and 16 of the specification.
-/

namespace Registrar

/-- A pattern that a whole text must match, with the text it was read from. -/
structure Shape where
  text : String
  pattern : Pattern

/-- A rule that holds of a value or does not. -/
inductive Test where
  | nonzero
  | email
  | hexColor
  | url
  | ip
  | alpha
  | alphaNum
  | num
  | lat
  | lon
  | above (bound : Float)
  | atLeast (bound : Float)
  | below (bound : Float)
  | atMost (bound : Float)
  | oneOf (items : List String)
  | noneOf (items : List String)
  | hasKey (key : String)
  | shape (s : Shape)
  | length (n : Nat)
  | minLength (n : Nat)
  | maxLength (n : Nat)

namespace Test

/-- The name a test goes by in a tag. -/
def name : Test → String
  | .nonzero => "nonzero"
  | .email => "email"
  | .hexColor => "hexcolor"
  | .url => "url"
  | .ip => "ip"
  | .alpha => "alpha"
  | .alphaNum => "alphanum"
  | .num => "num"
  | .lat => "lat"
  | .lon => "lon"
  | .above _ => "gt"
  | .atLeast _ => "gte"
  | .below _ => "lt"
  | .atMost _ => "lte"
  | .oneOf _ => "in"
  | .noneOf _ => "notin"
  | .hasKey _ => "haskey"
  | .shape _ => "matches"
  | .length _ => "len"
  | .minLength _ => "minlen"
  | .maxLength _ => "maxlen"

/-- Whether a value is a text that a pattern is found in. -/
def finds (p : Pattern) (v : Value) : Bool := v.text?.any p.found

/-- Whether a value is a number with a property. -/
def number (f : Float → Bool) (v : Value) : Bool := v.toFloat?.any f

/-- Whether a value has a length with a property. -/
def measured (f : Nat → Bool) (v : Value) : Bool := v.length?.any f

/-- Whether a number lies between two bounds, both included. -/
def between (low high x : Float) : Bool := low ≤ x && x ≤ high

/-- Whether a value is one of some texts. -/
def isMember (items : List String) (v : Value) : Bool := v.text?.any items.contains

/-- Whether a test holds of a value. -/
def holds : Test → Value → Bool
  | .nonzero, v => !v.isZero
  | .email, v => finds .email v
  | .hexColor, v => finds .hexColor v
  | .url, v => finds .url v
  | .ip, v => finds .ip v
  | .alpha, v => finds .letters v
  | .alphaNum, v => finds .letter v && finds .decimalDigit v
  | .num, v => finds .numeral v
  | .lat, v => number (between (-90) 90) v
  | .lon, v => number (between (-180) 180) v
  | .above b, v => number (b < ·) v
  | .atLeast b, v => number (b ≤ ·) v
  | .below b, v => number (· < b) v
  | .atMost b, v => number (· ≤ b) v
  | .oneOf items, v => isMember items v
  | .noneOf items, v => !isMember items v
  | .hasKey k, v =>
    match v with
    | .map entries => (Entries.get? entries k).isSome
    | _ => false
  | .shape s, v => finds s.pattern v
  | .length n, v => measured (· == n) v
  | .minLength n, v => measured (n ≤ ·) v
  | .maxLength n, v => measured (· ≤ n) v

end Test

/-- What a value must be. -/
inductive Rule where
  | test (t : Test)
  /-- The value is a sequence, and every item of it passes the rules. -/
  | each (rules : List Rule)
  /-- A failure among the rules stops the validation. -/
  | panic (rules : List Rule)

/-- What comes of checking rules. -/
inductive Outcome where
  | pass
  /-- The value fails the named rule. -/
  | fail (rule : String)
  /-- The named rule failed where a failure stops the validation. -/
  | fatal (rule : String)
  deriving DecidableEq, Repr

namespace Outcome

/-- The first outcome that is no success, over the items of a list. -/
def first (f : Value → Outcome) : List Value → Outcome
  | [] => .pass
  | v :: rest =>
    match f v with
    | .pass => first f rest
    | o => o

/-- A failure within a rule is a failure of that rule. -/
def within (rule : String) : Outcome → Outcome
  | .fail _ => .fail rule
  | o => o

/-- A failure becomes fatal. -/
def escalate : Outcome → Outcome
  | .fail rule => .fatal rule
  | o => o

end Outcome

namespace Rule

/-- The name a rule goes by in a tag. -/
def name : Rule → String
  | .test t => t.name
  | .each _ => "each"
  | .panic _ => "panic"

mutual

/-- Check a rule against a value. -/
def check : Rule → Value → Outcome
  | .test t, v => if t.holds v then .pass else .fail t.name
  | .each rules, v =>
    match v with
    | .seq items => (Outcome.first (checkAll rules) items).within "each"
    | _ => .fail "each"
  | .panic rules, v => (checkAll rules v).escalate

/-- Check rules in order, up to the first that does not pass. -/
def checkAll : List Rule → Value → Outcome
  | [], _ => .pass
  | r :: rest, v =>
    match check r v with
    | .pass => checkAll rest v
    | o => o

end

/-- A `panic` rule never merely fails. -/
theorem check_panic_ne_fail (rules : List Rule) (v : Value) (name : String) :
    check (.panic rules) v ≠ .fail name := by
  rw [check]
  cases checkAll rules v <;> simp [Outcome.escalate]

end Rule

end Registrar
