import Registrar.Rule.Basic
import Registrar.Pattern.Reader
import Registrar.Decimal.Fraction
import Registrar.Text.Split

/-!
# Tags: rules as text

A tag lists rules with bars between them, each a name or a name with an argument in parentheses.
A bar inside parentheses does not separate, so the rules within `each(…)` and `panic(…)` and the
choices of a pattern stay in one piece. The argument runs from the first opening parenthesis to
the last closing one. Names that are not known are passed over with their arguments; the first
known rule with a missing or malformed argument is reported (`Rule.Fault`).

See sections 4.2 and 16 of the specification.

Out of scope: the notes in a log of names that are passed over.
-/

namespace Registrar.Rule

/-- What is wrong with the argument of a rule. -/
inductive Fault where
  | missingArgument (rule : String)
  | invalidNumber (rule arg : String)
  | invalidLength (rule arg : String)
  | invalidPattern (arg : String)
  deriving DecidableEq, Repr

/-- The fault in words. -/
def Fault.message : Fault → String
  | .missingArgument rule => rule ++ ": missing argument"
  | .invalidNumber rule arg => rule ++ ": '" ++ arg ++ "' is not a number"
  | .invalidLength rule arg => rule ++ ": '" ++ arg ++ "' is not a length"
  | .invalidPattern arg => "matches: invalid pattern '" ++ arg ++ "'"

/-! ## Tokens -/

/-- Cut a text at the bars outside parentheses. `depth` counts the parentheses that are open; a
closing one too many is passed over. -/
def splitBars : Nat → List Char → List (List Char)
  | _, [] => [[]]
  | depth, c :: cs =>
    if c = '|' ∧ depth = 0 then [] :: splitBars 0 cs
    else
      let inner := if c = '(' then depth + 1 else if c = ')' then depth - 1 else depth
      match splitBars inner cs with
      | piece :: rest => (c :: piece) :: rest
      | [] => [[c]]

/-- The tokens of a tag: its pieces, trimmed, without the empty ones. -/
def tokens (cs : List Char) : List (List Char) :=
  ((splitBars 0 cs).map Text.trimChars).filter (!·.isEmpty)

/-- The name of a token: what stands before its first parenthesis. -/
def tokenName (token : List Char) : String :=
  String.ofList (Text.trimChars (token.takeWhile (· != '(')))

/-- The argument of a token: what stands between its first opening parenthesis and its last closing
one, or nothing. -/
def tokenArg (token : List Char) : List Char :=
  let inner := (token.dropWhile (· != '(')).tail
  Text.trimChars (inner.reverse.dropWhile (· != ')')).tail.reverse

/-! ## Lengths

The argument of a token is shorter than the tag the token comes from, so tags nest finitely. -/

theorem length_le_of_mem_splitBars {cs piece : List Char} {depth : Nat}
    (h : piece ∈ splitBars depth cs) : piece.length ≤ cs.length := by
  induction cs generalizing depth piece with
  | nil => simp_all [splitBars]
  | cons c cs ih =>
    simp only [splitBars] at h
    split at h
    · rcases List.mem_cons.mp h with rfl | h
      · simp
      · exact Nat.le_succ_of_le (ih h)
    · split at h
      · rename_i first rest hsplit
        rcases List.mem_cons.mp h with rfl | h
        · exact Nat.succ_le_succ (ih (by rw [hsplit]; exact List.mem_cons_self))
        · exact Nat.le_succ_of_le (ih (by rw [hsplit]; exact List.mem_cons_of_mem _ h))
      · simp_all

theorem length_le_of_mem_tokens {cs token : List Char} (h : token ∈ tokens cs) :
    token.length ≤ cs.length := by
  obtain ⟨h, -⟩ := List.mem_filter.mp h
  obtain ⟨piece, hpiece, rfl⟩ := List.mem_map.mp h
  exact Nat.le_trans (Text.length_trimChars_le piece) (length_le_of_mem_splitBars hpiece)

theorem length_tokenArg_lt {token : List Char} (h : token ≠ []) :
    (tokenArg token).length < token.length := by
  have drop_le : ∀ (p : Char → Bool) (l : List Char), (l.dropWhile p).length ≤ l.length :=
    fun p l => (List.dropWhile_sublist p).length_le
  have hpos : 0 < token.length := List.length_pos_iff.mpr h
  have h1 := drop_le (· != '(') token
  have h2 := drop_le (· != ')') (token.dropWhile (· != '(')).tail.reverse
  have h3 := Text.length_trimChars_le
    (((token.dropWhile (· != '(')).tail.reverse.dropWhile (· != ')')).tail.reverse)
  simp only [List.length_reverse, List.length_tail] at h2 h3
  simp only [tokenArg]
  omega

theorem length_arg_lt_of_mem_tokens {cs token : List Char} (h : token ∈ tokens cs) :
    (tokenArg token).length < cs.length := by
  have hne : token ≠ [] := by
    have := (List.mem_filter.mp h).2
    simpa using this
  exact Nat.lt_of_lt_of_le (length_tokenArg_lt hne) (length_le_of_mem_tokens h)

/-! ## Arguments -/

/-- An argument that must not be empty. -/
def required (rule : String) (arg : List Char) : Except Fault (List Char) :=
  if arg.isEmpty then .error (.missingArgument rule) else .ok arg

/-- An argument that is a number. -/
def number (rule : String) (arg : List Char) : Except Fault Float := do
  let arg := String.ofList (← required rule arg)
  match Decimal.float? arg with
  | some x => return x
  | none => throw (.invalidNumber rule arg)

/-- An argument that is a length. -/
def length (rule : String) (arg : List Char) : Except Fault Nat := do
  let arg ← required rule arg
  match Decimal.readNat Decimal.maxUInt64 arg with
  | .ok n => return n
  | .error _ => throw (.invalidLength rule (String.ofList arg))

/-- An argument that lists texts, with commas between them. -/
def items (arg : List Char) : List String :=
  (Text.splitChars ',' arg).map fun cs => String.ofList (Text.trimChars cs)

/-- The text of a pattern for a whole text, from the text of a pattern. -/
def anchoredText (pattern : String) : String := "^(?:" ++ pattern ++ ")$"

/-- An argument that is a pattern for the whole text. -/
def shape (rule : String) (arg : List Char) : Except Fault Shape := do
  let arg := String.ofList (← required rule arg)
  let text := anchoredText arg
  match Pattern.parse? text with
  | some p => return ⟨text, p⟩
  | none => throw (.invalidPattern arg)

/-- The test with a name and an argument; none for a name that is not known. -/
def test? (name : String) (arg : List Char) : Except Fault (Option Test) :=
  match name with
  | "nonzero" => .ok (some .nonzero)
  | "email" => .ok (some .email)
  | "hexcolor" => .ok (some .hexColor)
  | "url" => .ok (some .url)
  | "ip" => .ok (some .ip)
  | "alpha" => .ok (some .alpha)
  | "alphanum" => .ok (some .alphaNum)
  | "num" => .ok (some .num)
  | "lat" => .ok (some .lat)
  | "lon" => .ok (some .lon)
  | "gt" => (number name arg).map (some ∘ .above)
  | "gte" => (number name arg).map (some ∘ .atLeast)
  | "lt" => (number name arg).map (some ∘ .below)
  | "lte" => (number name arg).map (some ∘ .atMost)
  | "len" => (length name arg).map (some ∘ .length)
  | "minlen" => (length name arg).map (some ∘ .minLength)
  | "maxlen" => (length name arg).map (some ∘ .maxLength)
  | "in" => .ok (some (.oneOf (items arg)))
  | "notin" => .ok (some (.noneOf (items arg)))
  | "haskey" => (required name arg).map fun cs => some (.hasKey (String.ofList cs))
  | "matches" => (shape name arg).map (some ∘ .shape)
  | _ => .ok none

/-! ## Tags -/

/-- The rule of a token, where `nested` reads the rules in its argument. -/
def ofToken (nested : List Char → Except Fault (List Rule)) (token : List Char) :
    Except Fault (Option Rule) :=
  let arg := tokenArg token
  match tokenName token with
  | "each" => (nested arg).map (some ∘ .each)
  | "panic" => (nested arg).map (some ∘ .panic)
  | name => (test? name arg).map fun t => t.map .test

/-- Read the rules of a tag. Arguments are read by the same function, which has less to read there
than in the whole tag. -/
def parseChars (cs : List Char) : Except Fault (List Rule) :=
  let nested (arg : List Char) : Except Fault (List Rule) :=
    if arg.length < cs.length then parseChars arg else .ok []
  ((tokens cs).mapM (ofToken nested)).map fun rules => rules.filterMap id
termination_by cs.length

/-- Reading in order gives the same with two readers that agree on every member of the list. -/
theorem mapM_congr_of_mem {α β ε : Type} {f g : α → Except ε β} {l : List α}
    (h : ∀ a ∈ l, f a = g a) : l.mapM f = l.mapM g := by
  induction l with
  | nil => rfl
  | cons a l ih =>
    rw [List.mapM_cons, List.mapM_cons, h a List.mem_cons_self,
      ih fun b hb => h b (List.mem_cons_of_mem _ hb)]

/-- **Reading a tag**: its tokens in order, the arguments of nested rules read as tags. -/
theorem parseChars_eq (cs : List Char) :
    parseChars cs =
      ((tokens cs).mapM (ofToken parseChars)).map fun rules => rules.filterMap id := by
  rw [parseChars]
  congr 1
  refine mapM_congr_of_mem fun token ht => ?_
  simp only [ofToken, length_arg_lt_of_mem_tokens ht, ↓reduceIte]

/-- Read the rules of a tag. -/
def parseTag (tag : String) : Except Fault (List Rule) := parseChars tag.toList

end Registrar.Rule
