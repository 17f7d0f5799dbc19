import Registrar.Proofs.Carrying
import Registrar.Statement.Buffer

/-!
# A statement and its buffer

A statement may be read off a list of pieces, or grow in a buffer. Both come to one text with one
list of values, as long as the number of a value fits in a word of 32 bits: the number that a buffer
counts is the one that the piece has by its place in the text, and what a buffer keeps apart in
lists, names in one and placeholders in another, comes together in the order of the text.

* `Stands`, `Follows`: a text is that of some pieces, wherever they stand in a statement.
* `Grows`: what is made of pieces is built in a buffer, where the number of each value goes on from
  those bound before; `Grows.mapM` has it for a list.
* **`Buffer.concur_select`**, **`Buffer.concur_selectById`**, **`Buffer.concur_insert`**,
  **`Buffer.concur_update`**: a buffer holds each of the four statements, or both fail alike.

Out of scope: the text of a statement with 2^32 values or more, whose numbers start again, and of
one for a schema without columns.
-/

namespace Registrar

open Statement (binds write listed)

/-! ## Texts of pieces -/

namespace Statement

/-- Pieces are written one part after the other. -/
theorem write_append (a b : List Piece) (n : Nat) (previous : Option Piece) :
    write n previous (a ++ b) =
      write n previous a ++ write (n + (binds a).length) (a.getLast?.or previous) b := by
  induction a generalizing n previous with
  | nil => rfl
  | cons p rest ih =>
    have last : (p :: rest).getLast?.or previous = rest.getLast?.or (some p) := by
      rw [List.getLast?_cons]
      cases rest.getLast? <;> rfl
    have count : (if p.bind?.isSome then n + 1 else n) + (binds rest).length
        = n + (binds (p :: rest)).length := by
      rw [length_binds_cons]
      split <;> omega
    simp only [List.cons_append, write, ih, last, count, List.append_assoc]

end Statement

/-- A text is that of pieces, where `n` values are bound before them: a blank goes before it, unless
what stands there opens something, and it opens nothing itself. -/
structure Stands (n : Nat) (pieces : List Piece) (text : String) : Prop where
  written : ∀ previous, write n previous pieces =
    (if Piece.closesAfter previous then [] else [' ']) ++ text.toList
  closed : ∀ previous, Piece.closesAfter (pieces.getLast?.or previous) = false

namespace Stands

variable {n : Nat} {a b : List Piece} {s t : String}

/-- Parts are joined with a blank. -/
theorem append (ha : Stands n a s) (hb : Stands (n + (binds a).length) b t) :
    Stands n (a ++ b) (s ++ " " ++ t) := by
  refine ⟨fun previous => ?_, fun previous => ?_⟩
  · rw [Statement.write_append, ha.written, hb.written, ha.closed]
    simp
  · rw [List.getLast?_append, Option.or_assoc]
    exact hb.closed _

/-- A piece of which neither side closes up to the piece next to it. -/
theorem piece {n : Nat} {p : Piece} (before : p.closesBefore = false)
    (after : Piece.closesAfter (some p) = false)
    (h : p.chars (if p.bind?.isSome then n + 1 else n) = s.toList) : Stands n [p] s := by
  refine ⟨fun previous => ?_, fun _ => after⟩
  simp only [Statement.write, Piece.isSpaced_eq, before, h, Bool.or_false, List.append_nil,
    Bool.not_eq_true']
  cases Piece.closesAfter previous <;> rfl

theorem word (n : Nat) (w : Word) : Stands n [.word w] w.text := piece rfl rfl rfl

theorem name (n : Nat) (name : String) : Stands n [.name name] (Buffer.quoted name) :=
  piece rfl rfl String.toList_ofList.symm

theorem number (n k : Nat) : Stands n [.number k] (toString k) :=
  piece rfl rfl (by rw [Nat.toString_eq_ofList_toDigits, String.toList_ofList]; rfl)

theorem value (n : Nat) (kind : Kind) (bind : Bind) :
    Stands n [.value kind bind] ("$" ++ toString (n + 1) ++ "::" ++ kind.columnType) :=
  piece rfl rfl (by simp [Piece.chars, Piece.placeholder, Piece.bind?])

/-- Parts are joined with a comma, which closes up to the first. -/
theorem comma (ha : Stands n a s) (hb : Stands (n + (binds a).length) b t) :
    Stands n (a ++ [.comma] ++ b) (s ++ ", " ++ t) := by
  have bound : binds (a ++ [.comma]) = binds a := by
    rw [Statement.binds_append]
    exact List.append_nil _
  have tight : ∀ m before, write m before [.comma] = [','] := fun _ _ => rfl
  refine ⟨fun previous => ?_, fun previous => ?_⟩
  · rw [Statement.write_append, Statement.write_append, ha.written, tight, bound, hb.written]
    simp [Piece.closesAfter]
  · rw [List.getLast?_append, Option.or_assoc]
    exact hb.closed _

/-- Parts are joined with a word. -/
theorem between (ha : Stands n a s) (w : Word) (hb : Stands (n + (binds a).length) b t) :
    Stands n (a ++ [.word w] ++ b) (s ++ Buffer.spaced w ++ t) := by
  have bound : binds (a ++ [.word w]) = binds a := by
    rw [Statement.binds_append]
    exact List.append_nil _
  have joined := (ha.append (word _ w)).append (bound ▸ hb)
  simpa only [Buffer.spaced, String.append_assoc] using joined

/-- A list in parentheses, which close up to it. -/
theorem parentheses (ha : Stands n a s) :
    Stands n ([.opening] ++ a ++ [.closing]) ("(" ++ s ++ ")") := by
  have opened : ∀ previous, write n previous [.opening] =
      (if Piece.closesAfter previous then [] else [' ']) ++ ['('] := fun previous => by
    rw [write, Piece.isSpaced_eq]
    cases Piece.closesAfter previous <;> rfl
  have unbound : n + (binds [.opening]).length = n := rfl
  have tight : ∀ m before, write m before [.closing] = [')'] := fun _ _ => rfl
  refine ⟨fun previous => ?_, fun previous => ?_⟩
  · rw [Statement.write_append, Statement.write_append, opened, unbound, ha.written, tight]
    simp [Piece.closesAfter]
  · rw [List.getLast?_append]
    rfl

end Stands

/-- A text is that of pieces that follow something else, with the blank before it. There may be
none of either. -/
structure Follows (n : Nat) (pieces : List Piece) (text : String) : Prop where
  written : ∀ previous, Piece.closesAfter previous = false →
    write n previous pieces = text.toList
  closed : ∀ previous, Piece.closesAfter previous = false →
    Piece.closesAfter (pieces.getLast?.or previous) = false

theorem Follows.nil (n : Nat) : Follows n [] "" := ⟨fun _ _ => rfl, fun _ h => h⟩

namespace Stands

variable {n : Nat} {a b : List Piece} {s t : String}

/-- Behind something else, a blank goes before a text. -/
theorem follows (h : Stands n a s) : Follows n a (" " ++ s) := by
  refine ⟨fun previous apart => ?_, fun previous _ => h.closed previous⟩
  rw [h.written, apart]
  simp

/-- Parts are joined where the second has its blank with it. -/
theorem followed {m : Nat} (ha : Stands n a s) (hb : Follows m b t)
    (next : m = n + (binds a).length) : Stands n (a ++ b) (s ++ t) := by
  subst next
  refine ⟨fun previous => ?_, fun previous => ?_⟩
  · rw [Statement.write_append, ha.written, hb.written _ (ha.closed previous)]
    simp
  · rw [List.getLast?_append, Option.or_assoc]
    exact hb.closed _ (ha.closed previous)

end Stands

/-- Texts are those of things in turn, where `n` values are bound before the first: `R` says when a
text is that of a thing, and `bound` which values a thing binds. -/
inductive InTurn {α β : Type} (bound : α → List Bind) (R : Nat → α → β → Prop) :
    Nat → List α → List β → Prop
  | nil (n : Nat) : InTurn bound R n [] []
  | cons {n : Nat} {a : α} {b : β} {as : List α} {bs : List β} (first : R n a b)
      (rest : InTurn bound R (n + (bound a).length) as bs) : InTurn bound R n (a :: as) (b :: bs)

namespace Stands

variable {n : Nat} {parts : List (List Piece)} {texts : List String}

/-- Parts in turn are joined as two of them are. -/
theorem join {sep : List Piece} {between : String}
    (glue : ∀ {n a s b t}, Stands n a s → Stands (n + (binds a).length) b t →
      Stands n (a ++ sep ++ b) (s ++ between ++ t))
    (h : InTurn binds Stands n parts texts) (given : parts ≠ []) :
    Stands n (sep.intercalate parts) (between.intercalate texts) := by
  induction h with
  | nil => exact absurd rfl given
  | @cons n a s as ts first rest ih =>
    cases rest with
    | nil =>
      rw [List.intercalate_singleton, String.intercalate_singleton]
      exact first
    | cons second others =>
      rw [List.intercalate_cons_cons, String.intercalate_cons_cons]
      exact glue first (ih (by simp))

/-- A list in parentheses, which may be empty. -/
theorem parenthesized (h : InTurn binds Stands n parts texts) :
    Stands n ([.opening] ++ listed parts ++ [.closing]) ("(" ++ Buffer.commas texts ++ ")") := by
  cases h with
  | nil =>
    refine ⟨fun previous => ?_, fun _ => rfl⟩
    show write n previous [.opening, .closing] = _
    rw [write, Piece.isSpaced_eq]
    cases Piece.closesAfter previous <;> rfl
  | cons first rest =>
    exact (join comma (.cons first rest) (by simp)).parentheses

end Stands

namespace InTurn

variable {α β γ δ : Type} {bound : α → List Bind} {bound' : γ → List Bind}
  {R : Nat → α → β → Prop} {S : Nat → γ → δ → Prop} {n : Nat} {as : List α} {bs : List β}

theorem forall₂ {P : α → β → Prop} (h : InTurn bound R n as bs) (hrp : ∀ {n a b}, R n a b → P a b) :
    List.Forall₂ P as bs := by
  induction h with
  | nil => exact .nil
  | cons first _ ih => exact .cons (hrp first) ih

theorem map (h : InTurn bound R n as bs) {f : α → γ} {g : β → δ}
    (same : ∀ a, bound' (f a) = bound a) (hrs : ∀ {n a b}, R n a b → S n (f a) (g b)) :
    InTurn bound' S n (as.map f) (bs.map g) := by
  induction h with
  | nil => exact .nil _
  | cons first _ ih => exact .cons (hrs first) (by rwa [same])

/-- Where nothing is bound, texts stand in turn if they stand one by one. -/
theorem of_forall₂ (h : List.Forall₂ (fun a b => bound a = [] ∧ ∀ n, R n a b) as bs) (n : Nat) :
    InTurn bound R n as bs := by
  induction h with
  | nil => exact .nil n
  | cons first _ ih => exact .cons (first.2 n) (by rwa [first.1])

/-- Pieces in turn are parts of one piece each. -/
theorem parts {ps : List Piece} {ts : List String}
    (h : InTurn (fun p => binds [p]) (fun n p => Stands n [p]) n ps ts) :
    InTurn binds Stands n (ps.map fun p => [p]) ts := by
  have mapped : InTurn binds Stands n (ps.map fun p => [p]) (ts.map id) := h.map (fun _ => rfl) id
  rwa [List.map_id] at mapped

end InTurn

/-! ## Growth -/

section Growth

variable {α β : Type} (bound : α → List Bind) (R : Nat → α → β → Prop)

/-- A buffer has grown by what binds values, and a text of it is given back. -/
structure Grown (q : Buffer) (a : α) (r : β × Buffer) : Prop where
  params : r.2.params = q.params ++ bound a
  reads : r.2.params.length < 2 ^ 32 → R q.params.length a r.1

/-- What is built in a buffer goes with what is made without it: both succeed, and the buffer grows
by what is made, or both fail alike. -/
def Grows (x : Except Failure α) (build : Building β) : Prop :=
  ∀ q : Buffer, Concur (Grown bound R q) x (build.run q)

variable {bound R} {q : Buffer} {a : α} {r : β × Buffer}

theorem Grown.length (h : Grown bound R q a r) :
    r.2.params.length = q.params.length + (bound a).length := by
  rw [h.params, List.length_append]

theorem Grown.le (h : Grown bound R q a r) : q.params.length ≤ r.2.params.length := by
  rw [h.length]
  exact Nat.le_add_right _ _

end Growth

namespace Grows

variable {α β γ δ : Type} {bound : α → List Bind} {bound' : γ → List Bind}
  {R : Nat → α → β → Prop} {S : Nat → γ → δ → Prop}

/-- Growth is kept where both sides are put in other words that bind the same. -/
theorem map {x : Except Failure α} {build : Building β} (h : Grows bound R x build) {f : α → γ}
    {g : β → δ} (same : ∀ a, x = .ok a → bound' (f a) = bound a)
    (hrs : ∀ {n a b}, x = .ok a → R n a b → S n (f a) (g b)) :
    Grows bound' S (do let a ← x; return f a) (do let b ← build; return g b) := by
  intro q
  rw [bind_pure_comp, bind_pure_comp, StateT.run_map]
  rcases (h q).cases with ⟨a, r, made, built, grown⟩ | ⟨failure, made, failed⟩
  · rw [made, built]
    exact ⟨by rw [same a made]; exact grown.params, fun fits => hrs made (grown.reads fits)⟩
  · rw [made, failed]
    exact rfl

/-- What is given back may be put in other words. -/
theorem giving {x : Except Failure α} {build : Building β} (h : Grows bound R x build)
    {S : Nat → α → δ → Prop} {g : β → δ} (hrs : ∀ {n a b}, R n a b → S n a (g b)) :
    Grows bound S x (do let b ← build; return g b) := by
  rw [← bind_pure x]
  exact h.map (fun _ _ => rfl) fun _ => hrs

/-- What grows one after the other grows in turn. -/
theorem mapM {ι : Type} {f : ι → Except Failure α} {g : ι → Building β} {xs : List ι}
    (h : ∀ x ∈ xs, Grows bound R (f x) (g x)) :
    Grows (fun as => (as.map bound).flatten) (InTurn bound R) (xs.mapM f) (xs.mapM g) := by
  induction xs with
  | nil => exact fun q => ⟨(List.append_nil _).symm, fun _ => .nil _⟩
  | cons x rest ih =>
    obtain ⟨first, others⟩ := List.forall_mem_cons.mp h
    intro q
    rw [List.mapM_cons, List.mapM_cons, StateT.run_bind]
    refine (first q).bind fun a r _ _ ha => ?_
    rw [StateT.run_bind]
    refine (ih others r.2).bind fun as r' _ _ has => ?_
    refine ⟨?_, fun fits => .cons (ha.reads ?_) ?_⟩
    · show r'.2.params = _
      rw [has.params, ha.params, List.append_assoc]
      rfl
    · exact Nat.lt_of_le_of_lt has.le fits
    · rw [← ha.length]
      exact has.reads fits

end Grows

/-! ## Statements -/

/-- A sound schema has a column, if only that of its key. -/
theorem Schema.Sound.persisted_ne_nil {s : Schema} (hs : s.Sound) : s.persisted ≠ [] := by
  have key : (s.primaryKey, s.keyField) ∈ s.indexed :=
    List.mem_map.mpr ⟨s.primaryKey, List.mem_finRange _, rfl⟩
  exact List.ne_nil_of_mem (List.mem_filter.mpr ⟨key, hs.keyPersisted⟩)

namespace Buffer

/-- A buffer holds a statement: its values, and its text unless there are too many of them. -/
structure Holds (q : Buffer) (st : Statement) : Prop where
  params : q.params = st.params
  text : st.params.length < 2 ^ 32 → q.text = st.text

/-- A text that is built in a buffer of its own is that of a statement. -/
theorem concur_finish {x : Except Failure Statement} {build : Building String}
    (h : Grows Statement.params (fun n st => Stands n st.pieces) x build) :
    Concur (fun st q => Holds q st) x (finish build) := by
  unfold finish
  rcases (h empty).cases with ⟨st, r, rfl, built, grown⟩ | ⟨failure, rfl, failed⟩
  · rw [built]
    obtain ⟨text, q⟩ := r
    have params : q.params = st.params := grown.params
    refine ⟨params, fun fits => ?_⟩
    have stands : Stands 0 st.pieces text := grown.reads (params ▸ fits)
    show text = String.ofList (write 0 none st.pieces)
    rw [stands.written]
    exact String.ofList_toList.symm
  · rw [failed]
    rfl

/-- **A placeholder has the number of its piece**: that of the values bound before it, and one. -/
theorem grows_placeholder (f : Field) (v : Value) :
    Grows (fun p => binds [p]) (fun n p => Stands n [p]) (Statement.bound f v)
      (placeholder f v) := by
  intro q
  unfold Statement.bound placeholder pushParam
  cases Bind.ofValue v with
  | error failure => exact rfl
  | ok b =>
    refine ⟨rfl, fun fits => ?_⟩
    -- a word of 32 bits holds the number as long as it is less than 2^32
    have number : (UInt32.ofNat (q.params ++ [b]).length).toNat = q.params.length + 1 := by
      rw [UInt32.toNat_ofNat_of_lt' fits, List.length_append]
      rfl
    show Stands _ _ ("$" ++ toString (UInt32.ofNat (q.params ++ [b]).length).toNat ++ "::" ++ _)
    rw [number]
    exact Stands.value q.params.length f.kind b

theorem grows_literal (f : Field) (text : String) :
    Grows (fun p => binds [p]) (fun n p => Stands n [p]) (Statement.literal f text)
      (literal f text) := by
  intro q
  unfold Statement.literal literal
  cases f.literal text with
  | error failure => exact rfl
  | ok v => exact grows_placeholder f v q

theorem stands_columns {s : Schema} (hs : s.Sound) (n : Nat) :
    Stands n (Statement.columns s) (columns s) := by
  have names : InTurn binds Stands n (s.persisted.map fun e => [Statement.column e.2])
      (s.persisted.map fun e => quoted e.2.columnName) := by
    refine .of_forall₂ ?_ n
    rw [List.forall₂_map_left_iff, List.forall₂_map_right_iff, List.forall₂_same]
    exact fun e _ => ⟨rfl, fun n => .name n e.2.columnName⟩
  exact Stands.join Stands.comma names (by simpa using hs.persisted_ne_nil)

theorem grows_condition (s : Schema) (c : Condition) :
    Grows binds Stands (Statement.condition s c) (condition s c) := by
  unfold Statement.condition condition
  cases s.field? c.field with
  | none => exact fun q => rfl
  | some f =>
    simp only
    have column (n : Nat) : Stands n [Statement.column f] (quoted f.columnName) :=
      .name n f.columnName
    cases c.operand with
    | single text =>
      refine (grows_literal f text).map (fun _ _ => rfl) fun {n v t} _ value => ?_
      exact (column n).between _ value
    | many texts =>
      have values := Grows.mapM fun text (_ : text ∈ texts) => grows_literal f text
      refine values.map (fun vs _ => ?_) fun {n vs ts} _ values => ?_
      · exact (Statement.binds_around f c.operator (.many texts) vs).trans
          (Statement.binds_singletons vs).symm
      · have whole := (column n).between .among (.parenthesized values.parts)
        simp only [String.append_assoc] at whole ⊢
        exact whole

theorem grows_order (s : Schema) (o : Option Order) :
    Grows binds Follows (Statement.orderClause s o) (orderClause s o) := by
  have asked (n : Nat) (f : Field) : Stands n [.word .orderBy, Statement.column f]
      (Word.orderBy.text ++ " " ++ quoted f.columnName) :=
    (Stands.word n .orderBy).append (.name n f.columnName)
  unfold Statement.orderClause orderClause
  cases o with
  | none =>
    refine fun q => ⟨(List.append_nil _).symm, fun _ => ?_⟩
    have clause := (asked q.params.length s.keyField).follows
    simpa only [spaced, String.append_assoc] using clause
  | some o =>
    simp only
    cases s.field? o.field with
    | none => exact fun q => rfl
    | some f =>
      refine fun q => ⟨(List.append_nil _).symm, fun _ => ?_⟩
      have clause := ((asked q.params.length f).append (.word _ (.ofDirection o.direction))).follows
      simp only [spaced, String.append_assoc] at clause ⊢
      exact clause

theorem stands_selection {s : Schema} (hs : s.Sound) (n : Nat) :
    Stands n (Statement.selection s) (selection s) := by
  have whole := ((Stands.word n .select).append (stands_columns hs n)).between .from
    (.name _ s.collection)
  simp only [List.append_assoc] at whole
  simp only [Statement.selection, List.append_assoc]
  exact whole

theorem follows_where {n : Nat} {parts : List (List Piece)} {texts : List String}
    (h : InTurn binds Stands n parts texts) :
    Follows n (Statement.whereClause parts)
      (if texts.isEmpty then "" else spaced .where ++ (spaced .and).intercalate texts) := by
  cases h with
  | nil => exact .nil n
  | cons first rest =>
    have joined := Stands.join (fun hs ht => Stands.between hs .and ht) (.cons first rest) (by simp)
    have clause := ((Stands.word n .where).append joined).follows
    simp only [spaced, String.append_assoc, List.isEmpty_cons] at clause ⊢
    exact clause

/-- **A buffer asks for the rows of a query** as the statement does. -/
theorem concur_select {s : Schema} (hs : s.Sound) (q : Query) :
    Concur (fun st b => Holds b st) (Statement.select s q) (select s q) := by
  have conditions := Grows.mapM fun c (_ : c ∈ q.conditions) => grows_condition s c
  refine concur_finish fun b => ?_
  rw [StateT.run_bind]
  refine (conditions b).bind fun parts r _ _ hparts => ?_
  rw [StateT.run_bind]
  refine (grows_order s q.order r.2).bind fun order r' _ _ horder => ?_
  have selected : binds (Statement.selection s ++ Statement.whereClause parts)
      = (parts.map binds).flatten := by
    rw [Statement.binds_append, Statement.binds_selection, Statement.binds_whereClause]
    rfl
  have ordered : binds (Statement.selection s ++ Statement.whereClause parts ++ order)
      = (parts.map binds).flatten ++ binds order := by
    rw [Statement.binds_append, selected]
  refine ⟨?_, fun fits => ?_⟩
  · show r'.2.params = b.params ++ binds _
    rw [horder.params, hparts.params, Statement.binds_append, ordered, List.append_assoc]
    exact congrArg _ (List.append_nil _).symm
  · have selects := stands_selection hs b.params.length
    have found := follows_where (hparts.reads (Nat.lt_of_le_of_lt horder.le fits))
    have whole := (((selects.followed found (by rw [Statement.binds_selection]; rfl)).followed
      (horder.reads fits) (by rw [selected, hparts.length])).between .limit
      (.number _ q.limit)).between .offset (.number _ q.offset)
    simp only [List.append_assoc] at whole ⊢
    exact whole

theorem follows_keyed (s : Schema) {n : Nat} {id : Piece} {t : String} (h : Stands n [id] t) :
    Follows n (Statement.keyed s id) (keyed s t) := by
  have clause := ((Stands.word n .where).append (.name n s.keyField.columnName)).between .eq h
  have follows := clause.follows
  simp only [keyed, spaced, String.append_assoc] at follows ⊢
  exact follows

/-- **A buffer asks for the row with a key** as the statement does. -/
theorem concur_selectById {s : Schema} (hs : s.Sound) (id : Value) :
    Concur (fun st b => Holds b st) (Statement.selectById s id) (selectById s id) := by
  refine concur_finish ((grows_placeholder s.keyField id).map (fun v _ => ?_)
    fun {n v t} _ value => ?_)
  · exact Statement.binds_selectById s v
  · exact (stands_selection hs n).followed (follows_keyed s value)
      (by rw [Statement.binds_selection]; rfl)

/-! ### Writing -/

/-- The column of a field and the placeholder of the value that a record holds there. -/
def cell (r : Record) (e : Fin r.schema.fields.length × Field) : Building (String × String) := do
  let value ← placeholder e.2 (r.value e.1)
  return (quoted e.2.columnName, value)

/-- The two lists of an insertion are one of pairs. -/
theorem insertion_eq (r : Record) (cells : List (Fin r.schema.fields.length × Field))
    (names values : List String) : insertion r cells names values = do
      let pairs ← (cells.filter fun e =>
        !(e.1 = r.schema.primaryKey && r.schema.autoKey && r.key.isZero)).mapM (cell r)
      return (names ++ pairs.map Prod.fst, values ++ pairs.map Prod.snd) := by
  induction cells generalizing names values with
  | nil => simp [insertion]
  | cons e rest ih =>
    obtain ⟨i, f⟩ := e
    have left : (decide (i = r.schema.primaryKey) && r.schema.autoKey && (r.value i).isZero)
        = (decide (i = r.schema.primaryKey) && r.schema.autoKey && r.key.isZero) := by
      by_cases key : i = r.schema.primaryKey
      · rw [key]
        rfl
      · rw [decide_eq_false key]
        rfl
    rw [insertion, left, List.filter_cons]
    cases decide (i = r.schema.primaryKey) && r.schema.autoKey && r.key.isZero with
    | true => simpa using ih names values
    | false => simp [ih, cell]

/-- The column of a cell, wherever it stands, and its value, where it stands, are written as two
texts. -/
structure Celled (n : Nat) (c : Piece × Piece) (t : String × String) : Prop where
  unbound : binds [c.1] = []
  name : ∀ m, Stands m [c.1] t.1
  value : Stands n [c.2] t.2

theorem grows_cell (r : Record) (e : Fin r.schema.fields.length × Field) :
    Grows (fun c => binds [c.2]) Celled
      (do let v ← Statement.bound e.2 (r.value e.1); return (Statement.column e.2, v))
      (cell r e) := by
  refine (grows_placeholder e.2 (r.value e.1)).map (fun _ _ => rfl) fun _ value => ?_
  exact ⟨rfl, fun m => .name m e.2.columnName, value⟩

theorem grows_insertion (r : Record) :
    Grows (fun cells => (cells.map fun c => binds [c.2]).flatten)
      (fun n cells lists => ∃ pairs, lists = (pairs.map Prod.fst, pairs.map Prod.snd) ∧
        InTurn (fun c => binds [c.2]) Celled n cells pairs)
      (Statement.insertion r) (insertion r r.schema.persisted [] []) := by
  have cells := Grows.mapM fun e (_ : e ∈ r.schema.persisted.filter fun e =>
    !(e.1 = r.schema.primaryKey && r.schema.autoKey && r.key.isZero)) => grows_cell r e
  rw [insertion_eq]
  exact cells.giving fun {n cs pairs} h => ⟨pairs, rfl, h⟩

/-- **A buffer inserts a record** as the statement does: names and placeholders, which it keeps
in two lists, go together. -/
theorem concur_insert {r : Record} (hs : r.schema.Sound) :
    Concur (fun st b => Holds b st) (Statement.insert r) (insert r) := by
  refine concur_finish ((grows_insertion r).map (fun cells hcells => ?_)
    fun {n cells lists} hcells h => ?_)
  · show binds _ = _
    rw [(Statement.binds_insert hcells).2, Statement.binds_listed, List.map_map]
    rfl
  · obtain ⟨pairs, rfl, h⟩ := h
    have names : InTurn binds Stands n (cells.map fun c => [c.1]) (pairs.map Prod.fst) := by
      refine .of_forall₂ ?_ n
      rw [List.forall₂_map_left_iff, List.forall₂_map_right_iff]
      exact h.forall₂ fun c => ⟨c.unbound, c.name⟩
    -- the placeholders stand behind the names, which bind nothing, so their numbers go on from `n`
    have values : ∀ m, m = n →
        InTurn binds Stands m (cells.map fun c => [c.2]) (pairs.map Prod.snd) := by
      rintro m rfl
      exact h.map (fun _ => rfl) Celled.value
    have unbound : binds ([Piece.word .insertInto] ++ [Piece.name r.schema.collection]
        ++ ([Piece.opening] ++ listed (cells.map fun c => [c.1]) ++ [Piece.closing])) = [] := by
      simp only [Statement.binds_append, (Statement.binds_insert hcells).1]
      rfl
    have target := (Stands.word n .insertInto).append (.name n r.schema.collection)
    have whole := ((target.append (.parenthesized names)).between .values
      (.parenthesized (values _ (by rw [unbound]; rfl)))).between .returning
      (stands_columns hs _)
    simp only [String.append_assoc, List.append_assoc] at whole ⊢
    exact whole

/-- What the column of a field is set to. -/
def assignment (r : Record) (e : Fin r.schema.fields.length × Field) : Building String := do
  let value ← placeholder e.2 (r.value e.1)
  return quoted e.2.columnName ++ spaced .eq ++ value

theorem assignments_eq (r : Record) (cells : List (Fin r.schema.fields.length × Field))
    (sets : List String) : assignments r cells sets = do
      let more ← (cells.filter fun e => e.1 ≠ r.schema.primaryKey).mapM (assignment r)
      return sets ++ more := by
  induction cells generalizing sets with
  | nil => simp [assignments]
  | cons e rest ih =>
    obtain ⟨i, f⟩ := e
    rw [assignments, List.filter_cons]
    by_cases key : i = r.schema.primaryKey
    · simpa [key] using ih sets
    · simp [key, ih, assignment]

theorem grows_assignment (r : Record) (e : Fin r.schema.fields.length × Field) :
    Grows binds Stands
      (do let v ← Statement.bound e.2 (r.value e.1); return [Statement.column e.2, .word .eq, v])
      (assignment r e) := by
  refine (grows_placeholder e.2 (r.value e.1)).map (fun _ _ => rfl) fun {n v t} _ value => ?_
  exact (Stands.name n e.2.columnName).between .eq value

theorem grows_assignments (r : Record) :
    Grows (fun parts => (parts.map binds).flatten) (InTurn binds Stands)
      ((r.schema.persisted.filter fun e => e.1 ≠ r.schema.primaryKey).mapM fun e => do
        let v ← Statement.bound e.2 (r.value e.1)
        return [Statement.column e.2, .word .eq, v])
      (assignments r r.schema.persisted []) := by
  have sets := Grows.mapM fun e (_ : e ∈ r.schema.persisted.filter fun e =>
    e.1 ≠ r.schema.primaryKey) => grows_assignment r e
  rw [assignments_eq]
  exact sets.giving id

/-- **A buffer writes a record over its row** as the statement does, the lone reading of a row
included. -/
theorem concur_update {r : Record} (hs : r.schema.Sound) :
    Concur (fun st b => Holds b st) (Statement.update r) (update r) := by
  refine concur_finish fun b => ?_
  rw [StateT.run_bind]
  refine (grows_assignments r b).bind fun parts q _ _ hparts => ?_
  rw [StateT.run_bind]
  refine (grows_placeholder _ _ q.2).bind fun id q' _ _ hid => ?_
  obtain ⟨sets, q⟩ := q
  -- the buffer asks its list of texts whether there is anything to set, the statement its own list
  rw [← apply_ite pure, ← apply_ite pure]
  refine ⟨?_, fun fits => ?_⟩
  · show q'.2.params = _
    rw [hid.params, hparts.params, List.append_assoc]
    refine congrArg _ (Eq.symm ?_)
    cases parts with
    | nil => exact Statement.binds_selectById r.schema id
    | cons part others =>
      rw [← Statement.binds_listed]
      exact Statement.binds_update r.schema (part :: others) id
  · have turn := hparts.reads (Nat.lt_of_le_of_lt hid.le fits)
    have keyed := follows_keyed r.schema (hid.reads fits)
    have next := hparts.length
    cases turn with
    | nil =>
      exact (stands_selection hs _).followed keyed
        (by rw [Statement.binds_selection]; exact next)
    | cons first rest =>
      have sets := Stands.join Stands.comma (.cons first rest) (by simp)
      have target := (Stands.word b.params.length .update).append (.name _ r.schema.collection)
      have whole := ((target.between .set sets).followed keyed
        (by rw [← Statement.binds_listed] at next; exact next)).between .returning (stands_columns hs _)
      simp only [String.append_assoc, List.append_assoc] at whole ⊢
      exact whole

end Buffer

end Registrar
