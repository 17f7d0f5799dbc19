import Registrar.Descriptor.Basic
import Registrar.Descriptor.Slot
import Registrar.Text.Utf8

/-!
# Reading descriptors

The slots of a field, of its resource and of the document, in the order they are declared in, and
the reading of a whole text (`parse`) or of the bytes of a file (`ofFile`).

See section 12 of the specification.

Out of scope: the opening of the file, whose bytes are taken as given.
-/

namespace Registrar.Descriptor

open Draft (Slot)

/-- A field of which nothing is known. -/
def Field.blank : Field := ⟨"", .string, none, none, false, none, none⟩

/-- The slots of a field. -/
def Field.slots : List (Slot Field) :=
  [.of "name" true Draft.text fun f x => { f with name := x },
   .of "kind" true (Draft.variant Kind.spellings) fun f x => { f with kind := x },
   .of "json" false Draft.optionalText fun f x => { f with json := x },
   .of "column" false Draft.optionalText fun f x => { f with column := x },
   .of "omit_empty" false Draft.flag fun f x => { f with omitEmpty := x },
   .of "validate" false Draft.optionalText fun f x => { f with validate := x },
   .of "merge" false Draft.optionalText fun f x => { f with merge := x }]

/-- Read a field. -/
def Field.ofDraft : Draft → Except ReadFault Field := Draft.record Field.slots Field.blank

/-- The slots of a resource's timestamps: the names of the fields for the time of creation and for
that of the last change. -/
def timestampSlots : List (Slot (Option String × Option String)) :=
  [.of "created" false Draft.optionalText fun t x => (x, t.2),
   .of "updated" false Draft.optionalText fun t x => (t.1, x)]

/-- A resource of which nothing is known: its key is `id`, keys are assigned, and every operation
is exposed. -/
def Resource.blank : Resource := ⟨"", none, "id", true, none, none, none, Operation.all, []⟩

/-- The slots of a resource. -/
def Resource.slots : List (Slot Resource) :=
  [.of "name" true Draft.text fun r x => { r with name := x },
   .of "collection" false Draft.optionalText fun r x => { r with collection := x },
   .of "primary_key" false Draft.text fun r x => { r with primaryKey := x },
   .of "auto_key" false Draft.flag fun r x => { r with autoKey := x },
   .of "timestamps" false (Draft.record timestampSlots (none, none)) fun r x =>
    { r with created := x.1, updated := x.2 },
   .of "soft_delete" false Draft.optionalText fun r x => { r with softDelete := x },
   .of "operations" false (Draft.listOf (Draft.variant Operation.spellings)) fun r x =>
    { r with operations := x },
   .of "fields" true (Draft.listOf Field.ofDraft) fun r x => { r with fields := x }]

/-- Read a resource. -/
def Resource.ofDraft : Draft → Except ReadFault Resource :=
  Draft.record Resource.slots Resource.blank

/-- The slots of a document. -/
def slots : List (Slot Descriptor) :=
  [.of "resources" true (Draft.listOf Resource.ofDraft) fun _ x => ⟨x⟩]

/-- Read a descriptor document. That something follows it is noticed last. -/
def parse (text : String) : Except ReadFault Descriptor :=
  let (draft, ended) := Draft.read text
  do
    let d ← Draft.record slots ⟨[]⟩ draft
    if ended then return d else throw .malformed

/-- Read the descriptor document in a file, given its bytes if there are any to be had. -/
def ofFile (bytes : Option (List UInt8)) : Except ReadFault Descriptor :=
  match bytes.bind Text.Utf8.decode? with
  | some text => parse text
  | none => .error .unreadable

end Registrar.Descriptor
