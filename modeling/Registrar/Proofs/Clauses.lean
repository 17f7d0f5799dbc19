import Registrar.Proofs.Carrying

/-!
# Clauses of a statement

What a database finds in the clauses of a statement, read off its text: the columns that an
insertion names, the columns that an update sets, and the column that rows are to be ordered by
with its direction. A clause is what stands between two marks (`between`). Names are quoted and so
are never taken for one, and a word is none unless it is the mark itself.

* `inserted?_of_insert`, `set?_of_update`: the columns are those of the fields at the indexes that a
  write carries.
* `order?_of_select`: the order is by the field that a query asks for, in its direction, and by
  the key if it asks for none.
-/

namespace Registrar.Statement

/-! ## Marks -/

/-- The tokens behind the first mark `start`, up to the next mark `stop`. -/
def between (start stop : Token) (ts : List Token) : List Token :=
  (ts.dropWhile (· ≠ start)).tail.takeWhile (· ≠ stop)

theorem between_append {start stop : Token} {before inside : List Token}
    (starts : start ∉ before) (stops : stop ∉ inside) (after : List Token) :
    between start stop (before ++ start :: (inside ++ stop :: after)) = inside := by
  have skipped : ∀ t ∈ before, decide (t ≠ start) = true := fun t ht =>
    decide_eq_true fun same => starts (same ▸ ht)
  have taken : ∀ t ∈ inside, decide (t ≠ stop) = true := fun t ht =>
    decide_eq_true fun same => stops (same ▸ ht)
  unfold between
  rw [List.dropWhile_append_of_pos skipped, List.dropWhile_cons_of_neg (by simp), List.tail_cons,
    List.takeWhile_append_of_pos taken, List.takeWhile_cons_of_neg (by simp), List.append_nil]

/-- The names among tokens. -/
def names (ts : List Token) : List String :=
  ts.filterMap fun
    | .name s => some s
    | _ => none

theorem names_append (ts us : List Token) : names (ts ++ us) = names ts ++ names us :=
  List.filterMap_append

namespace Intended

theorem mem_intercalate {t : Token} {sep : List Token} : ∀ {parts : List (List Token)},
    t ∈ sep.intercalate parts → t ∈ sep ∨ ∃ part ∈ parts, t ∈ part
  | [], h => absurd h List.not_mem_nil
  | [part], h => by
    rw [List.intercalate_singleton] at h
    exact .inr ⟨part, List.mem_singleton_self _, h⟩
  | part :: next :: rest, h => by
    rw [List.intercalate_cons_cons, List.mem_append, List.mem_append] at h
    rcases h with (h | h) | h
    · exact .inr ⟨part, List.mem_cons_self, h⟩
    · exact .inl h
    · rcases mem_intercalate h with h | ⟨other, listed, h⟩
      · exact .inl h
      · exact .inr ⟨other, List.mem_cons_of_mem _ listed, h⟩

/-- A mark that is neither a comma nor in a part is not in a list. -/
theorem notMem_commas {t : Token} {parts : List (List Token)} (comma : t ≠ .comma)
    (h : ∀ part ∈ parts, t ∉ part) : t ∉ commas parts := by
  intro listed
  rcases mem_intercalate listed with sep | ⟨part, hpart, inside⟩
  · exact comma (List.mem_singleton.mp sep)
  · exact h part hpart inside

theorem names_commas : ∀ parts : List (List Token), names (commas parts) = parts.flatMap names
  | [] => rfl
  | [part] => by
    rw [commas, List.intercalate_singleton, List.flatMap_singleton]
  | part :: next :: rest => by
    have later := names_commas (next :: rest)
    unfold commas at later ⊢
    rw [List.intercalate_cons_cons, names_append, names_append, later, List.flatMap_cons]
    exact congrArg (· ++ _) (List.append_nil _)

/-- A word that is in no type is in no placeholder. -/
theorem notMem_slot {w : String} (h : ∀ k : Kind, Token.word w ∉ k.typeTokens) (n : Nat)
    (f : Field) : Token.word w ∉ slot n f := by
  simp [slot, h]

theorem names_slot (n : Nat) (f : Field) : names (slot n f) = [] := by
  unfold slot
  cases f.kind <;> rfl

theorem mem_numbered {α : Type} {part : Nat → α → List Token} {ts : List Token} :
    ∀ {n : Nat} {as : List α}, ts ∈ numbered part n as → ∃ m a, ts = part m a
  | _, [], h => absurd h List.not_mem_nil
  | n, a :: _, h => by
    rcases List.mem_cons.mp h with rfl | h
    · exact ⟨n + 1, a, rfl⟩
    · exact mem_numbered h

theorem names_numbered {α : Type} {part : Nat → α → List Token} {name : α → String}
    (h : ∀ n a, names (part n a) = [name a]) :
    ∀ n as, (numbered part n as).flatMap names = as.map name
  | _, [] => rfl
  | n, a :: rest => by
    rw [numbered, List.flatMap_cons, h, names_numbered h, List.map_cons, List.singleton_append]

end Intended

variable {r : Record} {s : Schema} {q : Query} {st : Statement}

/-! ## Columns that are written -/

/-- The columns of the fields at some indexes. -/
def columnsAt (s : Schema) (is : List (Fin s.fields.length)) : List String :=
  is.map fun i => (s.fields.get i).columnName

/-- The columns that an insertion names. -/
def inserted? : List Token → Option (List String)
  | .word "INSERT" :: ts => some (names (between .opening .closing ts))
  | _ => none

/-- The columns that an update sets. -/
def set? : List Token → Option (List String)
  | .word "UPDATE" :: ts => some (names (between (.word "SET") (.word "WHERE") ts))
  | _ => none

theorem inserted?_insert (s : Schema) (leavesKey : Bool) :
    inserted? (Intended.insert s leavesKey)
      = some ((Intended.inserted s leavesKey).map Field.columnName) := by
  have parts : ∀ part ∈ (Intended.inserted s leavesKey).map fun f => [Intended.column f],
      Token.closing ∉ part := by
    intro part hpart
    obtain ⟨f, -, rfl⟩ := List.mem_map.mp hpart
    simp [Intended.column]
  have listed : names (Intended.commas ((Intended.inserted s leavesKey).map fun f =>
      [Intended.column f])) = (Intended.inserted s leavesKey).map Field.columnName := by
    rw [Intended.names_commas, List.flatMap_map]
    exact (List.map_eq_flatMap ..).symm
  unfold Intended.insert
  simp only [List.append_assoc, List.cons_append, List.nil_append]
  have starts : Token.opening ∉ [Token.word "INTO", .name s.collection] := by simp
  refine congrArg some (Eq.trans (congrArg names ?_) listed)
  exact between_append starts (Intended.notMem_commas (by simp) parts) _

theorem set?_update {s : Schema} (sets : Intended.assigned s ≠ []) :
    set? (Intended.update s) = some ((Intended.assigned s).map Field.columnName) := by
  have slot := Intended.notMem_slot (w := "WHERE") fun kind => by cases kind <;> decide
  have parts : ∀ part ∈ Intended.numbered Intended.assignment 0 (Intended.assigned s),
      Token.word "WHERE" ∉ part := by
    intro part hpart
    obtain ⟨n, f, rfl⟩ := Intended.mem_numbered hpart
    simp [Intended.assignment, Intended.column, slot]
  have listed : names (Intended.commas
      (Intended.numbered Intended.assignment 0 (Intended.assigned s)))
      = (Intended.assigned s).map Field.columnName := by
    rw [Intended.names_commas]
    refine Intended.names_numbered (fun n f => ?_) _ _
    exact congrArg (f.columnName :: ·) (Intended.names_slot n f)
  unfold Intended.update
  rw [if_neg (by simpa using sets)]
  simp only [List.append_assoc, List.cons_append, List.nil_append]
  have starts : Token.word "SET" ∉ [Token.name s.collection] := by simp
  refine congrArg some (Eq.trans (congrArg names ?_) listed)
  exact between_append starts (Intended.notMem_commas (by simp) parts) _

/-- **An insertion names the columns of the fields that it carries.** -/
theorem inserted?_of_insert (hs : r.schema.Sound) (h : insert r = .ok st) :
    (read? st.text).bind inserted? = some (columnsAt r.schema r.inserts) := by
  rw [((spelled_insert r).rendersAs st h).read, Option.bind_some, inserted?_insert,
    inserted_eq hs, List.map_map]
  rfl

/-- **An update sets the columns of the fields that it carries**, unless there are none: then it is
no update. -/
theorem set?_of_update (h : update r = .ok st) : (read? st.text).bind set? =
    if r.schema.updates = [] then none else some (columnsAt r.schema r.schema.updates) := by
  have fields := assigned_eq r.schema
  rw [((spelled_update r).rendersAs st h).read, Option.bind_some]
  by_cases none : r.schema.updates = []
  · rw [if_pos none]
    rw [none] at fields
    unfold Intended.update
    rw [fields]
    rfl
  · rw [if_neg none, set?_update (by simpa [fields] using none), fields, List.map_map]
    rfl

/-! ## The order of rows -/

/-- The column and the direction of an order clause. Without a word for the direction it is
ascending. -/
def directed? : List Token → Option (String × Direction)
  | [.name column] => some (column, .ascending)
  | [.name column, .word "ASC"] => some (column, .ascending)
  | [.name column, .word "DESC"] => some (column, .descending)
  | _ => none

/-- The column that rows are to be ordered by, and the direction. -/
def order? (ts : List Token) : Option (String × Direction) :=
  directed? (between (.word "BY") (.word "LIMIT") ts)

/-- The conditions of a query ask for no order. -/
theorem Intended.notMem_conditions (n : Nat) (cs : List Condition) :
    ∀ part ∈ Intended.conditions s n cs, Token.word "BY" ∉ part := by
  have slot := fun n f => Intended.notMem_slot (w := "BY") (fun k => by cases k <;> decide) n f
  have condition : ∀ n f op operand, Token.word "BY" ∉ Intended.condition n f op operand := by
    intro n f op operand
    cases operand with
    | single text =>
      cases op <;> simp [Intended.condition, Intended.column, Intended.operator, slot]
    | many texts =>
      have listed : Token.word "BY" ∉ Intended.commas
          (Intended.numbered (fun m (_ : String) => Intended.slot m f) n texts) := by
        refine Intended.notMem_commas (by simp) fun part hpart => ?_
        obtain ⟨m, -, rfl⟩ := Intended.mem_numbered hpart
        exact slot m f
      simp [Intended.condition, Intended.column, listed]
  induction cs generalizing n with
  | nil => exact fun part hpart => absurd hpart List.not_mem_nil
  | cons c rest ih =>
    refine List.forall_mem_cons.mpr ⟨?_, ih _⟩
    cases s.field? c.field with
    | none => exact List.not_mem_nil
    | some f => exact condition n f c.operator c.operand

theorem Intended.notMem_whereClause {parts : List (List Token)}
    (h : ∀ part ∈ parts, Token.word "BY" ∉ part) :
    Token.word "BY" ∉ Intended.whereClause parts := by
  cases parts with
  | nil => exact List.not_mem_nil
  | cons part rest =>
    intro asks
    rcases List.mem_cons.mp asks with word | asks
    · exact absurd word (by simp)
    · rcases Intended.mem_intercalate asks with sep | ⟨other, listed, inside⟩
      · exact absurd sep (by simp)
      · exact h other listed inside

theorem Intended.notMem_selection (s : Schema) : Token.word "BY" ∉ Intended.selection s := by
  have listed : Token.word "BY" ∉ Intended.commas
      (s.persisted.map fun e => [Intended.column e.2]) := by
    refine Intended.notMem_commas (by simp) fun part hpart => ?_
    obtain ⟨e, -, rfl⟩ := List.mem_map.mp hpart
    simp [Intended.column]
  simp [Intended.selection, Intended.columns, listed]

/-- The field and the direction that rows are ordered by: those a query asks for, or the key. -/
def orderAt (s : Schema) : Option Order → Option (Fin s.fields.length × Direction)
  | none => some (s.primaryKey, .ascending)
  | some o => (s.index? o.field).map fun i => (i, o.direction)

theorem order?_select {i : Fin s.fields.length} {d : Direction}
    (h : orderAt s q.order = some (i, d)) :
    order? (Intended.select s q) = some ((s.fields.get i).columnName, d) := by
  have before : Token.word "BY" ∉ Intended.selection s
      ++ Intended.whereClause (Intended.conditions s 0 q.conditions) ++ [.word "ORDER"] := by
    have conditions := Intended.notMem_whereClause
      (Intended.notMem_conditions (s := s) 0 q.conditions)
    simp [Intended.notMem_selection, conditions]
  have cut : ∀ inside : List Token, Token.word "LIMIT" ∉ inside →
      Intended.orderClause s q.order = .word "ORDER" :: .word "BY" :: inside →
      order? (Intended.select s q) = directed? inside := by
    intro inside stops clause
    unfold order? Intended.select
    rw [clause]
    refine congrArg directed? ?_
    have cut := between_append before stops [.number q.limit, .word "OFFSET", .number q.offset]
    simpa only [List.append_assoc, List.cons_append, List.nil_append] using cut
  cases o : q.order with
  | none =>
    rw [o] at h cut
    obtain ⟨rfl, rfl⟩ := Prod.mk.inj (Option.some.inj h)
    exact cut [Intended.column s.keyField] (by simp [Intended.column]) rfl
  | some o' =>
    rw [o] at h cut
    obtain ⟨j, hj, h⟩ := Option.map_eq_some_iff.mp h
    obtain ⟨rfl, rfl⟩ := Prod.mk.inj h
    have clause : Intended.orderClause s (some o') = .word "ORDER" :: .word "BY"
        :: [Intended.column (s.fields.get j), Intended.direction o'.direction] := by
      simp [Intended.orderClause, Schema.field?, hj]
    refine (cut _ ?_ clause).trans ?_
    · cases o'.direction <;> simp [Intended.column, Intended.direction]
    · cases o'.direction <;> rfl

/-- **Rows are to be ordered by the field that the query asks for**, or by the key. -/
theorem order?_of_select {i : Fin s.fields.length} {d : Direction}
    (asked : orderAt s q.order = some (i, d)) (h : select s q = .ok st) :
    (read? st.text).bind order? = some ((s.fields.get i).columnName, d) := by
  rw [((spelled_select s q).rendersAs st h).read, Option.bind_some, order?_select asked]

end Registrar.Statement
