/-!
# UTF-8

Bytes are read from the left, a character at a time (`pieces`). Where the bytes at the front are no
character, the longest run of them that begins one is set aside as a single malformed piece. A text
that must be well formed has no such piece (`decode?`); elsewhere each becomes a replacement
character (`decodeLossy`).
-/

namespace Registrar.Text.Utf8

/-- What the first byte of a character says: the bits it holds, how many bytes continue it, and the
bounds of the first of these. -/
structure Lead where
  bits : Nat
  count : Nat
  low : Nat
  high : Nat

/-- What a byte says as the first of a character. -/
def lead? (byte : UInt8) : Option Lead :=
  let b := byte.toNat
  if b < 0x80 then some ⟨b, 0, 0x80, 0xbf⟩
  else if b < 0xc2 then none
  else if b < 0xe0 then some ⟨b - 0xc0, 1, 0x80, 0xbf⟩
  else if b = 0xe0 then some ⟨0, 2, 0xa0, 0xbf⟩
  else if b = 0xed then some ⟨0xd, 2, 0x80, 0x9f⟩
  else if b < 0xf0 then some ⟨b - 0xe0, 2, 0x80, 0xbf⟩
  else if b = 0xf0 then some ⟨0, 3, 0x90, 0xbf⟩
  else if b < 0xf4 then some ⟨b - 0xf0, 3, 0x80, 0xbf⟩
  else if b = 0xf4 then some ⟨4, 3, 0x80, 0x8f⟩
  else none

/-- Take the bytes that continue a character, and what follows them. The number is none if one is
missing. -/
def continued (lead : Lead) : List UInt8 → Option Nat × List UInt8
  | [] => (if lead.count = 0 then some lead.bits else none, [])
  | byte :: rest =>
    if lead.count = 0 then (some lead.bits, byte :: rest)
    else if lead.low ≤ byte.toNat ∧ byte.toNat ≤ lead.high then
      continued ⟨lead.bits * 64 + (byte.toNat - 0x80), lead.count - 1, 0x80, 0xbf⟩ rest
    else (none, byte :: rest)

theorem length_continued_le (lead : Lead) (bytes : List UInt8) :
    (continued lead bytes).2.length ≤ bytes.length := by
  induction bytes generalizing lead with
  | nil => simp [continued]
  | cons byte rest ih =>
    simp only [continued]
    split
    · exact Nat.le_refl _
    · split
      · exact Nat.le_succ_of_le (ih _)
      · exact Nat.le_refl _

/-- The characters that bytes stand for, with none for a malformed piece. -/
def pieces : List UInt8 → List (Option Char)
  | [] => []
  | byte :: rest =>
    match lead? byte with
    | none => none :: pieces rest
    | some lead =>
      have := length_continued_le lead rest
      (continued lead rest).1.map Char.ofNat :: pieces (continued lead rest).2
termination_by bytes => bytes.length

/-- The text of well-formed bytes. -/
def decode? (bytes : List UInt8) : Option String :=
  ((pieces bytes).mapM id).map String.ofList

/-- The text of bytes, each malformed piece replaced. -/
def decodeLossy (bytes : List UInt8) : String :=
  String.ofList ((pieces bytes).map fun c => c.getD '\ufffd')

end Registrar.Text.Utf8
