import Registrar.Text.Blank
import Registrar.Text.Upper

/-!
# Keys

A field is declared under a snake-case name. Outside, in documents and in columns, it goes by a
key: the one its descriptor gives, or one derived from the name. `camel` derives a document key
(`user_id` becomes `userId`); `choose` settles which key counts, where `-` means none at all.

See section 12 of the specification.
-/

namespace Registrar.Key

/-- Camel case of a list of characters. `started` says whether a letter was written before, and
`raise` whether the next one begins a word. -/
def camelChars : Bool → Bool → List Char → List Char
  | _, _, [] => []
  | started, raise, c :: cs =>
    if c = '_' then camelChars started started cs
    else if raise then Text.upper c ++ camelChars true false cs
    else c :: camelChars true false cs

/-- The camel-case form of a snake-case name: underscores go, and the letter after one is written
upper case unless it is the first. -/
def camel (name : String) : String := String.ofList (camelChars false false name.toList)

/-- The key that counts: a given one, trimmed, unless it is empty; else the default. A given `-`
leaves the field without a key. -/
def choose (given : Option String) (default : String) : Option String :=
  match given with
  | none => some default
  | some text =>
    let key := Text.trim text
    if key = "-" then none else if key.isEmpty then some default else some key

/-! ## Examples -/

example : camel "user_id" = "userId" := by decide
example : camel "_private_key" = "privateKey" := by decide
example : camel "a__b" = "aB" := by decide
example : choose (some " - ") "x" = none := by decide
example : choose (some " ") "x" = some "x" := by decide

end Registrar.Key
