import Registrar.Proofs.Lexing
import Registrar.Proofs.Outcomes
import Registrar.Store.Table

/-!
# What statements say

The statement that each request is meant to be, as a list of tokens that is written down without
regard to how it is built (`Intended`): the names of the schema, the words around them, and for
every value the number of its placeholder and the cast of its field. Nothing that a client sends is
among them.

Results:
* `spelled_select`, `spelled_selectById`, `spelled_insert`, `spelled_update`: what is rendered
  spells the intended tokens, for any names and any values.
* **`rendering_is_safe`**: what is rendered reads as the intended tokens, with one placeholder for
  each of its values (`Renders`), and requests which differ in their values only have one text.
-/

namespace Registrar

namespace Operand

/-- Whether two operands differ in their literals only. -/
def SameForm : Operand → Operand → Prop
  | .single _, .single _ => True
  | .many as, .many bs => as.length = bs.length
  | _, _ => False

theorem SameForm.length_eq : ∀ {a b : Operand}, a.SameForm b →
    a.literals.length = b.literals.length
  | .single _, .single _, _ => rfl
  | .many _, .many _, h => h

end Operand

/-- Whether two conditions differ in their literals only. -/
structure Condition.SameShape (c d : Condition) : Prop where
  field : c.field = d.field
  operator : c.operator = d.operator
  operand : c.operand.SameForm d.operand

/-- Whether two queries differ in the literals of their conditions only. -/
structure Query.SameShape (q p : Query) : Prop where
  conditions : List.Forall₂ Condition.SameShape q.conditions p.conditions
  order : q.order = p.order
  limit : q.limit = p.limit
  offset : q.offset = p.offset

/-- Whether a record is inserted without its key, for the database to assign it. -/
def Record.leavesKey (r : Record) : Bool := r.schema.keyField.isPersisted && Table.wantsKey r

namespace Statement

/-! ## Intended statements -/

namespace Intended

def commas (parts : List (List Token)) : List Token := [Token.comma].intercalate parts

/-- Parts that have a placeholder each, where `n` values are bound before them. -/
def numbered {α : Type} (part : Nat → α → List Token) : Nat → List α → List (List Token)
  | _, [] => []
  | n, a :: rest => part (n + 1) a :: numbered part (n + 1) rest

def column (f : Field) : Token := .name f.columnName

def columns (s : Schema) : List Token := commas (s.persisted.map fun e => [column e.2])

/-- A placeholder with the cast of its field. -/
def slot (n : Nat) (f : Field) : List Token := .placeholder n :: .cast :: f.kind.typeTokens

def operator : Operator → Token
  | .eq => .sign "="
  | .lt => .sign "<"
  | .lte => .sign "<="
  | .gt => .sign ">"
  | .gte => .sign ">="
  | .among => .word "IN"

/-- A field compared with a value or looked for among some, where `n` values are bound before. -/
def condition (n : Nat) (f : Field) (op : Operator) : Operand → List Token
  | .single _ => column f :: operator op :: slot (n + 1) f
  | .many texts =>
    [column f, .word "IN", .opening] ++ commas (numbered (fun m _ => slot m f) n texts)
      ++ [.closing]

/-- Conditions, where `n` values are bound before them. A condition on no field of the schema is
not rendered. -/
def conditions (s : Schema) : (n : Nat) → List Condition → List (List Token)
  | _, [] => []
  | n, c :: rest =>
    (s.field? c.field).elim [] (condition n · c.operator c.operand)
      :: conditions s (n + c.operand.literals.length) rest

def whereClause : List (List Token) → List Token
  | [] => []
  | parts => .word "WHERE" :: [Token.word "AND"].intercalate parts

def direction : Direction → Token
  | .ascending => .word "ASC"
  | .descending => .word "DESC"

def orderClause (s : Schema) : Option Order → List Token
  | none => [.word "ORDER", .word "BY", column s.keyField]
  | some o =>
    (s.field? o.field).elim [] fun f =>
      [.word "ORDER", .word "BY", column f, direction o.direction]

def selection (s : Schema) : List Token :=
  [.word "SELECT"] ++ columns s ++ [.word "FROM", .name s.collection]

def select (s : Schema) (q : Query) : List Token :=
  selection s ++ whereClause (conditions s 0 q.conditions) ++ orderClause s q.order
    ++ [.word "LIMIT", .number q.limit, .word "OFFSET", .number q.offset]

/-- The row with a key, where `n` values are bound before it. -/
def keyed (s : Schema) (n : Nat) : List Token :=
  [.word "WHERE", column s.keyField, .sign "="] ++ slot (n + 1) s.keyField

def selectById (s : Schema) : List Token := selection s ++ keyed s 0

/-- The fields that are inserted: the persisted ones, less the key if it is left out. -/
def inserted (s : Schema) (leavesKey : Bool) : List Field :=
  (s.persisted.filter fun e => !(leavesKey && e.1 = s.primaryKey)).map Prod.snd

def insert (s : Schema) (leavesKey : Bool) : List Token :=
  [.word "INSERT", .word "INTO", .name s.collection, .opening]
    ++ commas ((inserted s leavesKey).map fun f => [column f])
    ++ [.closing, .word "VALUES", .opening]
    ++ commas (numbered slot 0 (inserted s leavesKey))
    ++ [.closing, .word "RETURNING"] ++ columns s

/-- The fields that an update sets: the persisted ones but the key. -/
def assigned (s : Schema) : List Field :=
  (s.persisted.filter fun e => e.1 ≠ s.primaryKey).map Prod.snd

def assignment (n : Nat) (f : Field) : List Token := column f :: .sign "=" :: slot n f

def update (s : Schema) : List Token :=
  if (assigned s).isEmpty then selectById s
  else [.word "UPDATE", .name s.collection, .word "SET"]
    ++ commas (numbered assignment 0 (assigned s)) ++ keyed s (assigned s).length
    ++ [.word "RETURNING"] ++ columns s

theorem numbered_congr {α β : Type} (part : Nat → List Token) : ∀ {as : List α} {bs : List β},
    as.length = bs.length →
      ∀ n, numbered (fun m _ => part m) n as = numbered (fun m _ => part m) n bs
  | [], [], _, _ => rfl
  | _ :: _, _ :: _, h, n => by
    rw [numbered, numbered, numbered_congr part (Nat.succ.inj h)]

theorem condition_congr (n : Nat) (f : Field) (op : Operator) :
    ∀ {a b : Operand}, a.SameForm b → condition n f op a = condition n f op b
  | .single _, .single _, _ => rfl
  | .many _, .many _, h => by rw [condition, condition, numbered_congr (slot · f) h]

theorem conditions_congr (s : Schema) {cs ds : List Condition}
    (h : List.Forall₂ Condition.SameShape cs ds) (n : Nat) :
    conditions s n cs = conditions s n ds := by
  induction h generalizing n with
  | nil => rfl
  | cons hc _ ih =>
    rw [conditions, conditions, hc.field, hc.operator, hc.operand.length_eq, ih,
      funext fun f => condition_congr n f _ hc.operand]

theorem select_congr (s : Schema) {q p : Query} (h : q.SameShape p) : select s q = select s p := by
  rw [select, select, conditions_congr s h.conditions, h.order, h.limit, h.offset]

end Intended

/-! ## Pieces that spell tokens -/

/-- Pieces spell tokens, where `n` values are bound before them and `m` with them. -/
structure Spells (n m : Nat) (pieces : List Piece) (ts : List Token) : Prop where
  tokens : Statement.tokens n pieces = ts
  count : n + (binds pieces).length = m

/-- Lists of pieces spell lists of tokens, one after the other. -/
inductive SpellsAll : Nat → Nat → List (List Piece) → List (List Token) → Prop
  | nil (n : Nat) : SpellsAll n n [] []
  | cons {n m k : Nat} {p : List Piece} {t : List Token} {ps : List (List Piece)}
    {ts : List (List Token)} : Spells n m p t → SpellsAll m k ps ts →
      SpellsAll n k (p :: ps) (t :: ts)

theorem Spells.append {n m k : Nat} {a b : List Piece} {ts us : List Token} (h : Spells n m a ts)
    (h' : Spells m k b us) : Spells n k (a ++ b) (ts ++ us) := by
  obtain ⟨rfl, rfl⟩ := h
  obtain ⟨rfl, rfl⟩ := h'
  exact ⟨tokens_append a b n, by rw [binds_append, List.length_append, Nat.add_assoc]⟩

/-- What is put between lists of pieces binds nothing. -/
theorem SpellsAll.intercalate {sep : List Piece} {seps : List Token}
    (hsep : ∀ n, Spells n n sep seps) {n m : Nat} {ps : List (List Piece)}
    {ts : List (List Token)} (h : SpellsAll n m ps ts) :
    Spells n m (sep.intercalate ps) (seps.intercalate ts) := by
  induction h with
  | nil n => exact ⟨rfl, rfl⟩
  | cons hp hps ih =>
    cases hps with
    | nil =>
      rw [List.intercalate_singleton, List.intercalate_singleton]
      exact hp
    | cons hq hqs =>
      rw [List.intercalate_cons_cons, List.intercalate_cons_cons]
      exact (hp.append (hsep _)).append ih

theorem SpellsAll.listed {n m : Nat} {ps : List (List Piece)} {ts : List (List Token)}
    (h : SpellsAll n m ps ts) : Spells n m (listed ps) (Intended.commas ts) :=
  h.intercalate fun _ => ⟨rfl, rfl⟩

theorem SpellsAll.whereClause {n m : Nat} {ps : List (List Piece)} {ts : List (List Token)}
    (h : SpellsAll n m ps ts) : Spells n m (whereClause ps) (Intended.whereClause ts) := by
  have joined : Spells n m ([Piece.word .and].intercalate ps) ([Token.word "AND"].intercalate ts) :=
    h.intercalate fun _ => ⟨rfl, rfl⟩
  have whereWord : Spells n n [.word .where] [.word "WHERE"] := ⟨rfl, rfl⟩
  cases h with
  | nil => exact ⟨rfl, rfl⟩
  | cons => exact whereWord.append joined

/-- Parts that bind one value each are numbered on. -/
theorem SpellsAll.numbered {α : Type} {part : Nat → α → List Token} {as : List α}
    {ps : List (List Piece)}
    (h : List.Forall₂ (fun a p => ∀ n, Spells n (n + 1) p (part (n + 1) a)) as ps) (n : Nat) :
    SpellsAll n (n + as.length) ps (Intended.numbered part n as) := by
  induction h generalizing n with
  | nil => exact .nil n
  | cons hp _ ih =>
    rw [List.length_cons, Nat.add_comm _ 1, ← Nat.add_assoc]
    exact .cons (hp n) (ih (n + 1))

/-- Parts that bind nothing stand alone. -/
theorem SpellsAll.names (n : Nat) (fs : List Field) :
    SpellsAll n n (fs.map fun f => [column f]) (fs.map fun f => [Intended.column f]) := by
  induction fs with
  | nil => exact .nil n
  | cons f fs ih => exact .cons ⟨rfl, rfl⟩ ih

theorem spells_columns (s : Schema) (n : Nat) : Spells n n (columns s) (Intended.columns s) := by
  have h := (SpellsAll.names n (s.persisted.map Prod.snd)).listed
  rw [List.map_map, List.map_map] at h
  exact h

theorem spells_selection (s : Schema) (n : Nat) :
    Spells n n (selection s) (Intended.selection s) := by
  have words : Spells n n [.word .select] [.word "SELECT"] := ⟨rfl, rfl⟩
  exact (words.append (spells_columns s n)).append ⟨rfl, rfl⟩

/-! ## The parts of statements -/

theorem bound_eq_ok {f : Field} {v : Value} {p : Piece} (h : bound f v = .ok p) :
    ∃ b, p = .value f.kind b := by
  obtain ⟨b, -, rfl⟩ := map_eq_ok.mp h
  exact ⟨b, rfl⟩

theorem literal_eq_ok {f : Field} {text : String} {p : Piece} (h : literal f text = .ok p) :
    ∃ b, p = .value f.kind b := by
  obtain ⟨v, -, h⟩ := bind_eq_ok.mp h
  exact bound_eq_ok h

theorem spells_slot (f : Field) (b : Bind) (n : Nat) :
    Spells n (n + 1) [.value f.kind b] (Intended.slot (n + 1) f) :=
  ⟨List.append_nil _, rfl⟩

theorem spells_keyed {s : Schema} {id : Value} {p : Piece} (h : bound s.keyField id = .ok p)
    (n : Nat) : Spells n (n + 1) (keyed s p) (Intended.keyed s n) := by
  obtain ⟨b, rfl⟩ := bound_eq_ok h
  have words : Spells n n [.word .where, column s.keyField, .word .eq]
      [.word "WHERE", Intended.column s.keyField, .sign "="] := ⟨rfl, rfl⟩
  exact words.append (spells_slot s.keyField b n)

theorem spells_condition {s : Schema} {c : Condition} {ps : List Piece}
    (h : condition s c = .ok ps) (n : Nat) :
    Spells n (n + c.operand.literals.length) ps
      ((s.field? c.field).elim [] (Intended.condition n · c.operator c.operand)) := by
  obtain ⟨field, op, operand⟩ := c
  unfold condition at h
  cases hf : s.field? field with
  | none => rw [hf] at h; contradiction
  | some f =>
    rw [hf] at h
    cases operand with
    | single text =>
      obtain ⟨p, hp, h⟩ := bind_eq_ok.mp h
      obtain rfl := pure_eq_ok.mp h
      obtain ⟨b, rfl⟩ := literal_eq_ok hp
      have words : Spells n n [column f, .word (.ofOperator op)]
          [Intended.column f, Intended.operator op] := by
        cases op <;> exact ⟨rfl, rfl⟩
      exact words.append (spells_slot f b n)
    | many texts =>
      obtain ⟨vs, hvs, h⟩ := bind_eq_ok.mp h
      obtain rfl := pure_eq_ok.mp h
      have words : Spells n n [column f, .word .among, .opening]
          [Intended.column f, .word "IN", .opening] := ⟨rfl, rfl⟩
      have slots : SpellsAll n (n + texts.length) (vs.map fun v => [v])
          (Intended.numbered (fun m _ => Intended.slot m f) n texts) := by
        refine SpellsAll.numbered (List.forall₂_map_right_iff.mpr ?_) n
        refine (mapM_eq_ok.mp hvs).imp fun text v hv m => ?_
        obtain ⟨b, rfl⟩ := literal_eq_ok hv
        exact spells_slot f b m
      exact (words.append slots.listed).append ⟨rfl, rfl⟩

theorem spells_conditions {s : Schema} {cs : List Condition} {pss : List (List Piece)}
    (h : cs.mapM (condition s) = .ok pss) (n : Nat) :
    ∃ m, SpellsAll n m pss (Intended.conditions s n cs) := by
  induction mapM_eq_ok.mp h generalizing n with
  | nil => exact ⟨n, .nil n⟩
  | cons hc hcs ih =>
    obtain ⟨m, hm⟩ := ih (mapM_eq_ok.mpr hcs) _
    exact ⟨m, .cons (spells_condition hc n) hm⟩

theorem spells_orderClause {s : Schema} {o : Option Order} {ps : List Piece}
    (h : orderClause s o = .ok ps) (n : Nat) : Spells n n ps (Intended.orderClause s o) := by
  cases o with
  | none =>
    obtain rfl := Except.ok.inj h
    exact ⟨rfl, rfl⟩
  | some o =>
    simp only [orderClause] at h
    rw [Intended.orderClause]
    cases hf : s.field? o.field with
    | none => rw [hf] at h; contradiction
    | some f =>
      rw [hf] at h
      obtain rfl := Except.ok.inj h
      cases o.direction <;> exact ⟨rfl, rfl⟩

/-- A statement spells tokens from its start, if it is rendered. -/
def Spelled (st? : Except Failure Statement) (ts : List Token) : Prop :=
  ∀ st, st? = .ok st → ∃ m, Spells 0 m st.pieces ts

theorem spelled_select (s : Schema) (q : Query) :
    Spelled (select s q) (Intended.select s q) := by
  intro st h
  obtain ⟨conditions, hc, h⟩ := bind_eq_ok.mp h
  obtain ⟨order, ho, h⟩ := bind_eq_ok.mp h
  obtain rfl := pure_eq_ok.mp h
  obtain ⟨m, hm⟩ := spells_conditions hc 0
  exact ⟨m, (((spells_selection s 0).append hm.whereClause).append (spells_orderClause ho m)).append
    ⟨rfl, rfl⟩⟩

theorem spelled_selectById (s : Schema) (id : Value) :
    Spelled (selectById s id) (Intended.selectById s) := by
  intro st h
  obtain ⟨p, hp, h⟩ := bind_eq_ok.mp h
  obtain rfl := pure_eq_ok.mp h
  exact ⟨1, (spells_selection s 0).append (spells_keyed hp 0)⟩

theorem mem_persisted {s : Schema} {e : Fin s.fields.length × Field} (h : e ∈ s.persisted) :
    e.2 = s.fields.get e.1 ∧ e.2.isPersisted := by
  obtain ⟨h, hp⟩ := List.mem_filter.mp h
  obtain ⟨i, -, rfl⟩ := List.mem_map.mp h
  exact ⟨rfl, hp⟩

/-- The key is left out of what is inserted iff the record leaves it to the database. -/
theorem filter_inserted (r : Record) :
    r.schema.persisted.filter (fun e =>
      !(e.1 = r.schema.primaryKey && r.schema.autoKey && r.key.isZero))
      = r.schema.persisted.filter fun e => !(r.leavesKey && e.1 = r.schema.primaryKey) := by
  refine List.filter_congr fun e he => ?_
  obtain ⟨hf, hp⟩ := mem_persisted he
  by_cases hk : e.1 = r.schema.primaryKey
  · -- the key is met among the persisted fields, so it is persisted
    have hkey : r.schema.keyField.isPersisted := by rwa [hf, hk] at hp
    simp [hk, Record.leavesKey, Table.wantsKey, hkey]
  · simp [hk]

theorem forall₂_insertion {r : Record} {cells : List (Piece × Piece)}
    (h : insertion r = .ok cells) :
    List.Forall₂ (fun f c => c.1 = column f ∧ ∃ b, c.2 = .value f.kind b)
      (Intended.inserted r.schema r.leavesKey) cells := by
  unfold insertion at h
  rw [filter_inserted] at h
  refine List.forall₂_map_left_iff.mpr ((mapM_eq_ok.mp h).imp fun e c hc => ?_)
  obtain ⟨p, hp, hc⟩ := bind_eq_ok.mp hc
  obtain rfl := pure_eq_ok.mp hc
  exact ⟨rfl, bound_eq_ok hp⟩

theorem spelled_insert (r : Record) :
    Spelled (insert r) (Intended.insert r.schema r.leavesKey) := by
  intro st h
  obtain ⟨cells, hc, h⟩ := bind_eq_ok.mp h
  obtain rfl := pure_eq_ok.mp h
  have hcells := forall₂_insertion hc
  have names : SpellsAll 0 0 (cells.map fun c => [c.1])
      ((Intended.inserted r.schema r.leavesKey).map fun f => [Intended.column f]) := by
    have columns : cells.map (fun c => [c.1])
        = (Intended.inserted r.schema r.leavesKey).map fun f => [column f] :=
      map_eq_of_forall₂ (hcells.imp fun f c h => by rw [h.1])
    rw [columns]
    exact .names 0 _
  have slots : SpellsAll 0 (0 + (Intended.inserted r.schema r.leavesKey).length)
      (cells.map fun c => [c.2])
      (Intended.numbered Intended.slot 0 (Intended.inserted r.schema r.leavesKey)) := by
    refine SpellsAll.numbered (List.forall₂_map_right_iff.mpr (hcells.imp fun f c hc m => ?_)) 0
    obtain ⟨-, b, hb⟩ := hc
    rw [hb]
    exact spells_slot f b m
  have start : Spells 0 0 [.word .insertInto, .name r.schema.collection, .opening]
      [.word "INSERT", .word "INTO", .name r.schema.collection, .opening] := ⟨rfl, rfl⟩
  have middle : Spells 0 0 [.closing, .word .values, .opening]
      [.closing, .word "VALUES", .opening] := ⟨rfl, rfl⟩
  have returning : ∀ n, Spells n n [.closing, .word .returning] [.closing, .word "RETURNING"] :=
    fun _ => ⟨rfl, rfl⟩
  have inserting := ((start.append names.listed).append middle).append slots.listed
  exact ⟨_, (inserting.append (returning _)).append (spells_columns r.schema _)⟩

theorem forall₂_sets {r : Record} {sets : List (List Piece)}
    (h : ((r.schema.persisted.filter fun e => e.1 ≠ r.schema.primaryKey).mapM fun e => do
      let v ← bound e.2 (r.value e.1)
      return [column e.2, .word .eq, v]) = .ok sets) :
    List.Forall₂ (fun f p => ∀ n, Spells n (n + 1) p (Intended.assignment (n + 1) f))
      (Intended.assigned r.schema) sets := by
  refine List.forall₂_map_left_iff.mpr ((mapM_eq_ok.mp h).imp fun e p hp n => ?_)
  obtain ⟨v, hv, hp⟩ := bind_eq_ok.mp hp
  obtain rfl := pure_eq_ok.mp hp
  obtain ⟨b, rfl⟩ := bound_eq_ok hv
  have words : Spells n n [column e.2, .word .eq] [Intended.column e.2, .sign "="] := ⟨rfl, rfl⟩
  exact words.append (spells_slot e.2 b n)

theorem spelled_update (r : Record) : Spelled (update r) (Intended.update r.schema) := by
  intro st h
  obtain ⟨sets, hs, h⟩ := bind_eq_ok.mp h
  obtain ⟨id, hid, h⟩ := bind_eq_ok.mp h
  have hsets := forall₂_sets hs
  have all := (SpellsAll.numbered hsets 0).listed
  unfold Intended.update
  generalize Intended.assigned r.schema = fs at hsets all ⊢
  cases hsets with
  | nil =>
    -- there is nothing to set, and the row is only read
    obtain rfl := pure_eq_ok.mp h
    exact ⟨1, (spells_selection _ 0).append (spells_keyed hid 0)⟩
  | cons hp hps =>
    obtain rfl := pure_eq_ok.mp h
    have start : Spells 0 0 [.word .update, .name r.schema.collection, .word .set]
        [.word "UPDATE", .name r.schema.collection, .word "SET"] := ⟨rfl, rfl⟩
    have returning : ∀ n, Spells n n [.word .returning] [.word "RETURNING"] := fun _ => ⟨rfl, rfl⟩
    rw [Nat.zero_add] at all
    have setting := (start.append all).append (spells_keyed hid _)
    exact ⟨_, (setting.append (returning _)).append (spells_columns r.schema _)⟩

/-! ## The statements themselves -/

/-- A statement reads as tokens, and its placeholders go from one on, one for each of its values. -/
structure Renders (st : Statement) (ts : List Token) : Prop where
  read : read? st.text = some ts
  placeholders : placeholders ts = List.range' 1 st.params.length

/-- A statement, if it is rendered, is rendered as tokens. -/
def RendersAs (st? : Except Failure Statement) (ts : List Token) : Prop :=
  ∀ st, st? = .ok st → st.Renders ts

/-- Two statements have one text, if both are rendered. -/
def OneText (st? st?' : Except Failure Statement) : Prop :=
  ∀ st st', st? = .ok st → st?' = .ok st' → st.text = st'.text

theorem Spelled.rendersAs {st? : Except Failure Statement} {ts : List Token}
    (h : Spelled st? ts) : RendersAs st? ts := by
  intro st hst
  obtain ⟨m, rfl, -⟩ := h st hst
  exact ⟨read?_text st, placeholders_tokens st.pieces 0⟩

/-- A text is made of the tokens alone. -/
theorem Spelled.text_eq {st? : Except Failure Statement} {ts : List Token} (h : Spelled st? ts)
    {st : Statement} (hst : st? = .ok st) : st.text = String.ofList (print true ts) := by
  obtain ⟨m, rfl, -⟩ := h st hst
  rw [text, write_eq_print]
  rfl

theorem Spelled.oneText {st? st?' : Except Failure Statement} {ts : List Token}
    (h : Spelled st? ts) (h' : Spelled st?' ts) : OneText st? st?' := by
  intro st st' hst hst'
  rw [h.text_eq hst, h'.text_eq hst']

/-- **Statements say what they are meant to say**, whatever the names of the schema and the values
are: each that is rendered reads as the intended tokens, and requests that differ in nothing but
their values have one text. -/
theorem rendering_is_safe :
    (∀ s q, RendersAs (select s q) (Intended.select s q)) ∧
    (∀ s id, RendersAs (selectById s id) (Intended.selectById s)) ∧
    (∀ r, RendersAs (insert r) (Intended.insert r.schema r.leavesKey)) ∧
    (∀ r, RendersAs (update r) (Intended.update r.schema)) ∧
    (∀ s q p, q.SameShape p → OneText (select s q) (select s p)) ∧
    (∀ s id id', OneText (selectById s id) (selectById s id')) ∧
    (∀ r r', r.schema = r'.schema → r.leavesKey = r'.leavesKey → OneText (insert r) (insert r')) ∧
    ∀ r r', r.schema = r'.schema → OneText (update r) (update r') := by
  refine ⟨fun s q => (spelled_select s q).rendersAs,
    fun s id => (spelled_selectById s id).rendersAs, fun r => (spelled_insert r).rendersAs,
    fun r => (spelled_update r).rendersAs, ?_, ?_, ?_, ?_⟩
  · intro s q p h
    have hp := spelled_select s p
    rw [← Intended.select_congr s h] at hp
    exact (spelled_select s q).oneText hp
  · intro s id id'
    exact (spelled_selectById s id).oneText (spelled_selectById s id')
  · intro r r' hs hk
    have hr' := spelled_insert r'
    rw [← hs, ← hk] at hr'
    exact (spelled_insert r).oneText hr'
  · intro r r' hs
    have hr' := spelled_update r'
    rw [← hs] at hr'
    exact (spelled_update r).oneText hr'

/-- A resource whose table and column have quotes in their names. -/
def quoted : Schema where
  name := "book"
  collection := "bo\"ok"
  fields := [⟨"id", .uint, some "id", some "id", false, "", [], none⟩,
    ⟨"size", .float, some "size", some "\" = \"", false, "", [], none⟩]
  primaryKey := ⟨0, by decide⟩
  autoKey := true
  created := none
  updated := none
  softDelete := none
  operations := []

/-- The query for keys among some, by size. -/
def quotedQuery (literals : List String) : Query :=
  ⟨[⟨"id", .among, .many literals⟩], some ⟨"size", .descending⟩, 10, 0, none⟩

theorem rendering_quoted :
    (quotedQuery ["1", "2"]).SameShape (quotedQuery ["3", "4"]) ∧
    ∃ st st', select quoted (quotedQuery ["1", "2"]) = .ok st ∧
      select quoted (quotedQuery ["3", "4"]) = .ok st' ∧ st.text = st'.text ∧
      read? st.text = some [.word "SELECT", .name "id", .comma, .name "\" = \"", .word "FROM",
        .name "bo\"ok", .word "WHERE", .name "id", .word "IN", .opening, .placeholder 1, .cast,
        .word "bigint", .comma, .placeholder 2, .cast, .word "bigint", .closing, .word "ORDER",
        .word "BY", .name "\" = \"", .word "DESC", .word "LIMIT", .number 10, .word "OFFSET",
        .number 0] := by
  have same : (quotedQuery ["1", "2"]).SameShape (quotedQuery ["3", "4"]) :=
    ⟨.cons ⟨rfl, rfl, rfl⟩ .nil, rfl, rfl, rfl⟩
  obtain ⟨reads, -, -, -, oneText, -⟩ := rendering_is_safe
  obtain ⟨st, hst⟩ : ∃ st, select quoted (quotedQuery ["1", "2"]) = .ok st := ⟨_, rfl⟩
  obtain ⟨st', hst'⟩ : ∃ st', select quoted (quotedQuery ["3", "4"]) = .ok st' := ⟨_, rfl⟩
  exact ⟨same, st, st', hst, hst', oneText _ _ _ same _ _ hst hst', (reads _ _ _ hst).read⟩

end Statement

end Registrar
