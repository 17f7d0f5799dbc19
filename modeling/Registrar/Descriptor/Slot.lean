import Registrar.Json.Draft

/-!
# Slots: records read from drafts

A descriptor is made of records, and a record may be written in two ways: as an object, whose
members come in any order, or as an array, whose items stand in the order of declaration. Both are
described once, by the list of the record's slots. A text is judged from front to back and the
first thing wrong is reported (`ReadFault`): a member that repeats when its key is met, a slot that
is missing at the closing brace.
-/

namespace Registrar

/-- What stops the reading of a descriptor document. -/
inductive ReadFault where
  /-- The text is not well formed, or a value is not of the sort its place asks for. -/
  | malformed
  | missingField (name : String)
  | unknownVariant (got : String) (expected : List String)
  | duplicateField (name : String)
  /-- The text itself cannot be had. -/
  | unreadable
  deriving DecidableEq, Repr

namespace ReadFault

/-- A name as it is quoted in a report. -/
def quote (name : String) : String := "`" ++ name ++ "`"

/-- What there is to report, beyond that reading failed. -/
def report? : ReadFault → Option String
  | .malformed | .unreadable => none
  | .missingField name => some ("missing field " ++ quote name)
  | .unknownVariant got expected =>
    some ("unknown variant " ++ quote got ++ ", expected one of "
      ++ ", ".intercalate (expected.map quote))
  | .duplicateField name => some ("duplicate field " ++ quote name)

end ReadFault

namespace Draft

mutual

/-- Whether the text of a draft is well formed to its end. -/
def isComplete : Draft → Bool
  | .broken => false
  | .array items closed => closed && allComplete items
  | .object members closed => closed && allMembersComplete members
  | _ => true

/-- Whether all items are well formed. -/
def allComplete : List Draft → Bool
  | [] => true
  | d :: rest => isComplete d && allComplete rest

/-- Whether all members are well formed. -/
def allMembersComplete : List (Option String × Draft) → Bool
  | [] => true
  | (_, d) :: rest => isComplete d && allMembersComplete rest

end

/-! ## Single values -/

/-- Read a text. -/
def text : Draft → Except ReadFault String
  | .string (some s) => .ok s
  | _ => .error .malformed

/-- Read a text that may be `null`. -/
def optionalText : Draft → Except ReadFault (Option String)
  | .null => .ok none
  | d => d.text.map some

/-- Read a truth value. -/
def flag : Draft → Except ReadFault Bool
  | .bool b => .ok b
  | _ => .error .malformed

/-- Read one of some names: a text, or an object with the name as its only key and `null` under it.
-/
def variant {α : Type} (spellings : List (String × α)) : Draft → Except ReadFault α
  | .string (some s) => named s
  | .object ((some s, value) :: rest) closed => do
    let a ← named s
    match value, rest, closed with
    | .null, [], true => return a
    | _, _, _ => throw .malformed
  | _ => .error .malformed
where
  /-- What a name stands for. -/
  named (s : String) : Except ReadFault α :=
    match spellings.lookup s with
    | some a => .ok a
    | none => .error (.unknownVariant s (spellings.map Prod.fst))

/-- Read an array of values. -/
def listOf {α : Type} (item : Draft → Except ReadFault α) : Draft → Except ReadFault (List α)
  | .array items closed => do
    let found ← items.mapM item
    if closed then return found else throw .malformed
  | _ => .error .malformed

/-! ## Records -/

/-- A slot of a record that is built up in a `σ`: its name, whether it must be given, and how its
value is read and stored. -/
structure Slot (σ : Type) where
  name : String
  required : Bool
  store : Draft → σ → Except ReadFault σ

/-- A slot from a reader of its value. -/
def Slot.of {σ α : Type} (name : String) (required : Bool) (value : Draft → Except ReadFault α)
    (set : σ → α → σ) : Slot σ :=
  ⟨name, required, fun d s => (value d).map (set s)⟩

/-- Read the items of a record written as an array. The slots at the end may be missing if they
need not be given. -/
def fillItems {σ : Type} : List (Slot σ) → List Draft → σ → Except ReadFault σ
  | [], [], s => .ok s
  | [], _ :: _, _ => .error .malformed
  | slot :: slots, [], s => if slot.required then .error .malformed else fillItems slots [] s
  | slot :: slots, d :: rest, s => slot.store d s >>= fillItems slots rest

/-- Read the members of a record written as an object. Those of other names are passed over. The
names met so far are in `seen`. -/
def fillMembers {σ : Type} (slots : List (Slot σ)) (closed : Bool) :
    List String → List (Option String × Draft) → σ → Except ReadFault σ
  | seen, [], s =>
    if closed then
      match slots.find? fun slot => slot.required && !seen.contains slot.name with
      | some slot => .error (.missingField slot.name)
      | none => .ok s
    else .error .malformed
  | _, (none, _) :: _, _ => .error .malformed
  | seen, (some key, d) :: rest, s =>
    match slots.find? (·.name = key) with
    | none => if d.isComplete then fillMembers slots closed seen rest s else .error .malformed
    | some slot =>
      if seen.contains key then .error (.duplicateField key)
      else slot.store d s >>= fillMembers slots closed (key :: seen) rest

/-- Read a record, on from a blank one. -/
def record {σ : Type} (slots : List (Slot σ)) (blank : σ) : Draft → Except ReadFault σ
  | .array items closed => do
    let s ← fillItems slots items blank
    if closed then return s else throw .malformed
  | .object members closed => fillMembers slots closed [] members blank
  | _ => .error .malformed

end Draft

end Registrar
