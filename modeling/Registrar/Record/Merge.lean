import Registrar.Record.Basic

/-!
# Merging records

A merge copies some fields of one record onto another of the same layout, and leaves the others as
they are; that is how fields keep their values through an update. Which fields are copied is said
by a list of names, of the fields to copy or of those to leave.

See sections 4.3 and 17 of the specification.

Out of scope: the notes in a log of names that are passed over.
-/

namespace Registrar

/-- Which fields a merge copies. -/
inductive MergeRule where
  /-- The fields with the given names. -/
  | only (names : List String)
  /-- The fields with other names than the given ones. -/
  | allBut (names : List String)
  deriving DecidableEq, Repr

/-- Records of different layouts cannot be merged. -/
structure MergeFault where
  source : String
  target : String
  deriving DecidableEq, Repr

/-- The fault in words. -/
def MergeFault.message (f : MergeFault) : String :=
  "cannot merge " ++ f.source ++ " into " ++ f.target ++ ": schemas differ"

namespace Schema

/-- Whether records of two schemas hold the same fields in the same order. -/
def sameLayout (a b : Schema) : Bool :=
  a.name == b.name
    && a.fields.map (fun f => (f.name, f.kind)) == b.fields.map (fun f => (f.name, f.kind))

end Schema

namespace MergeRule

/-- The fields that are declared to change in an update. -/
def tagged (s : Schema) : MergeRule :=
  .only ((s.fields.filter fun f => f.mergeable = some true).map (·.name))

/-- The fields that are not declared to stay in an update. -/
def untagged (s : Schema) : MergeRule :=
  .allBut ((s.fields.filter fun f => f.mergeable = some false).map (·.name))

/-- The names that a rule lists. -/
def names : MergeRule → List String
  | .only names => names
  | .allBut names => names

/-- Whether a field is copied. -/
def copies : MergeRule → Field → Bool
  | .only names, f => names.contains f.name
  | .allBut names, f => !names.contains f.name

/-- The indexes of the fields that are copied. -/
def resolve (rule : MergeRule) (s : Schema) : List (Fin s.fields.length) :=
  (List.finRange s.fields.length).filter fun i => rule.copies (s.fields.get i)

/-- Take the values of the fields that are copied from the first list, the others from the second.
-/
def pick (rule : MergeRule) : List Field → List Value → List Value → List Value
  | f :: fs, a :: as, b :: bs => (if rule.copies f then a else b) :: pick rule fs as bs
  | _, _, bs => bs

theorem length_pick (rule : MergeRule) (fs : List Field) (as bs : List Value) :
    (rule.pick fs as bs).length = bs.length := by
  induction fs generalizing as bs with
  | nil => simp [pick]
  | cons f fs ih => cases as <;> cases bs <;> simp [pick, ih]

/-- Copy fields of one record onto another. -/
def apply (rule : MergeRule) (source target : Record) : Except MergeFault Record :=
  if source.schema.sameLayout target.schema then
    .ok ⟨target.schema, rule.pick source.schema.fields source.values target.values,
      (rule.length_pick _ _ _).trans target.length_values⟩
  else .error ⟨source.schema.name, target.schema.name⟩

end MergeRule

end Registrar
