import Registrar.Proofs.Rendering
import Registrar.Proofs.Stability

/-!
# A store and a statement read a query alike

A query is run by a store, which reads its literals and compares them with rows, or written as a
statement, which reads its literals and binds them. Both go through the conditions, the literals
and the order one after the other and stop at the first that is wrong, so they fail with one
failure; and where nothing is wrong the statement binds what the store compares with.

* `Filter.concur_condition`: a condition is read alike by both.
* `Table.concur_select`: a query is, where rows are the resource's own.
* **`Store.reads_alike`**: a query is read alike by both, and answered as by any stable sort.

Out of scope: rows that cannot be sorted (`Query.Sortable`), among which a sort may stop while the
statement is written.
-/

namespace Registrar

/-! ## Literals -/

namespace Value

/-- Only an unsigned number can be too great to be bound, and only a literal of that kind reads as
one. -/
theorem kind_of_parse?_uint {k : Kind} {text : String} {n : UInt64}
    (h : parse? k text = some (.uint n)) : k = .uint := by
  cases k with
  | uint => rfl
  | sequence | struct =>
    obtain ⟨j, -, hj⟩ := Option.bind_eq_some_iff.mp h
    exact (hasKind_of_coerce? hj).elim
  | _ => simp [parse?] at h

end Value

/-- Whether a literal, if it reads as an unsigned number, reads as one that can be bound. -/
def Field.Binds (f : Field) (text : String) : Prop :=
  ∀ n, f.kind = .uint → Value.parse? f.kind text = some (.uint n) → n.toNat ≤ Decimal.maxInt64

/-- Whether every literal of a query can be bound if it can be read. -/
def Query.Binds (s : Schema) (q : Query) : Prop :=
  ∀ c ∈ q.conditions, ∀ i, s.index? c.field = some i →
    ∀ text ∈ c.operand.literals, (s.fields.get i).Binds text

theorem Bind.exists_ofValue_eq_ok {v : Value}
    (h : ∀ n, v = .uint n → n.toNat ≤ Decimal.maxInt64) : ∃ b, Bind.ofValue v = .ok b := by
  cases v with
  | uint n => exact ⟨_, if_pos (h n rfl)⟩
  | _ => exact ⟨_, rfl⟩

/-- A literal is bound as what it reads as. -/
theorem Field.concur_literal {f : Field} {text : String} (h : f.Binds text) :
    Concur (fun v p => ∃ b, Bind.ofValue v = .ok b ∧ p = .value f.kind b) (f.literal text)
      (Statement.literal f text) := by
  unfold Statement.literal
  cases hv : f.literal text with
  | error e => rfl
  | ok v =>
    -- the store is done with a literal that it has read; the statement has yet to bind it, and
    -- only a number that is too great would fail there
    have parsed := Field.literal_eq_ok.mp hv
    obtain ⟨b, hb⟩ : ∃ b, Bind.ofValue v = .ok b := by
      refine Bind.exists_ofValue_eq_ok fun n hn => ?_
      subst hn
      exact h n (Value.kind_of_parse?_uint parsed) parsed
    have bound : Statement.bound f v = .ok (.value f.kind b) := map_eq_ok.mpr ⟨b, hb, rfl⟩
    show Concur _ (.ok v) (Statement.bound f v)
    rw [bound]
    exact ⟨b, hb, rfl⟩

/-! ## Conditions -/

namespace Statement

/-- What is put between pieces binds nothing. -/
theorem binds_intercalate {sep : List Piece} (h : binds sep = []) (ps : List (List Piece)) :
    binds (sep.intercalate ps) = (ps.map binds).flatten := by
  induction ps with
  | nil => rfl
  | cons p ps ih =>
    cases ps with
    | nil =>
      rw [List.intercalate_singleton, List.map_singleton, List.flatten_singleton]
    | cons q ps =>
      rw [List.intercalate_cons_cons, binds_append, binds_append, h, List.append_nil, ih]
      rfl

theorem binds_listed (ps : List (List Piece)) : binds (listed ps) = (ps.map binds).flatten :=
  binds_intercalate rfl ps

theorem binds_whereClause : ∀ ps : List (List Piece),
    binds (whereClause ps) = (ps.map binds).flatten
  | [] => rfl
  | p :: ps => binds_intercalate rfl (p :: ps)

theorem binds_columns (s : Schema) : binds (columns s) = [] := by
  rw [columns, binds_listed, List.map_map]
  exact List.flatten_eq_nil_iff.mpr fun l hl => by
    obtain ⟨e, -, rfl⟩ := List.mem_map.mp hl
    rfl

theorem binds_selection (s : Schema) : binds (selection s) = [] := by
  rw [selection, binds_append, binds_append, binds_columns]
  rfl

theorem binds_singletons (ps : List Piece) : (ps.map fun p => binds [p]).flatten = binds ps := by
  induction ps with
  | nil => rfl
  | cons p ps ih =>
    rw [List.map_cons, List.flatten_cons, ih]
    exact (binds_append [p] ps).symm

/-- A condition around the pieces of its literals. -/
def around (f : Field) (op : Operator) : Operand → List Piece → List Piece
  | .single _, ps => [column f, .word (.ofOperator op)] ++ ps
  | .many _, ps => [column f, .word .among, .opening] ++ listed (ps.map fun p => [p]) ++ [.closing]

theorem binds_around (f : Field) (op : Operator) (operand : Operand) (ps : List Piece) :
    binds (around f op operand ps) = binds ps := by
  cases operand with
  | single text => rfl
  | many texts =>
    rw [around, binds_append, binds_append, binds_listed, List.map_map]
    exact (List.append_nil _).trans (binds_singletons ps)

theorem condition_eq {s : Schema} {c : Condition} {f : Field} (hf : s.field? c.field = some f) :
    condition s c
      = (c.operand.literals.mapM (literal f)).map (around f c.operator c.operand) := by
  unfold condition
  rw [hf]
  cases c.operand with
  | single text =>
    rw [Operand.literals, List.mapM_cons]
    cases h : literal f text <;> simp only [h] <;> rfl
  | many texts =>
    rw [Operand.literals]
    cases h : texts.mapM (literal f) <;> simp only [h] <;> rfl

end Statement

/-- Literals are bound, one after the other, as what they read as. -/
theorem Field.concur_literals {f : Field} {texts : List String} (h : ∀ text ∈ texts, f.Binds text) :
    Concur (fun vs ps => vs.mapM Bind.ofValue = .ok (Statement.binds ps))
      (texts.mapM f.literal) (texts.mapM (Statement.literal f)) := by
  have each : List.Forall₂ (fun a b => Concur _ (f.literal a) (Statement.literal f b))
      texts texts :=
    List.forall₂_same.mpr fun text ht => Field.concur_literal (h text ht)
  refine (Concur.mapM each).mono fun vs ps hvs => ?_
  clear each h
  induction hvs with
  | nil => rfl
  | cons hp _ ih =>
    obtain ⟨b, hb, rfl⟩ := hp
    exact mapM_eq_ok.mpr (.cons hb (mapM_eq_ok.mp ih))

/-- A condition is read alike by both, and the statement binds the operands of the filter. -/
theorem Filter.concur_condition {s : Schema} {c : Condition}
    (h : ∀ i, s.index? c.field = some i →
      ∀ text ∈ c.operand.literals, (s.fields.get i).Binds text) :
    Concur (fun f ps => f.operands.mapM Bind.ofValue = .ok (Statement.binds ps))
      (Filter.ofCondition s c) (Statement.condition s c) := by
  cases hi : s.index? c.field with
  | none =>
    unfold Filter.ofCondition Statement.condition Schema.field?
    rw [hi]
    rfl
  | some i =>
    have hf : s.field? c.field = some (s.fields.get i) := congrArg (Option.map _) hi
    rw [Statement.condition_eq hf]
    unfold Filter.ofCondition
    rw [hi]
    refine (Field.concur_literals (h i hi)).map fun vs ps hvs => ?_
    rw [Statement.binds_around]
    exact hvs

/-! ## Queries -/

/-- The orders that both know are the same, and none binds anything. -/
theorem Table.concur_ordering (s : Schema) (o : Option Order) :
    Concur (fun _ ps => Statement.binds ps = []) (Table.ordering s o)
      (Statement.orderClause s o) := by
  cases o with
  | none => exact rfl
  | some o =>
    simp only [Table.ordering, Table.orderIndex, Statement.orderClause, Schema.field?]
    cases s.index? o.field <;> exact rfl

/-- A statement binds the operands of the filters that a query has, one after the other. -/
def Query.BoundBy (s : Schema) (q : Query) (st : Statement) : Prop :=
  ∃ filters, q.conditions.mapM (Filter.ofCondition s) = .ok filters ∧
    (filters.flatMap Filter.operands).mapM Bind.ofValue = .ok st.params

/-- A resource's own rows have a value for each of its fields. -/
theorem Table.le_length_of_own {t : Table} {s : Schema} (own : ∀ r ∈ t.rows, r.schema = s) :
    ∀ r ∈ t.rows, s.fields.length ≤ r.values.length := by
  intro r hr
  rw [r.length_values, own r hr]

theorem Table.concur_select {t : Table} {s : Schema} {q : Query} (own : ∀ r ∈ t.rows, r.schema = s)
    (h : q.Binds s) :
    Concur (fun _ st => q.BoundBy s st) (t.select s q) (Statement.select s q) := by
  have conditions : Concur _ (q.conditions.mapM (Filter.ofCondition s)) _ :=
    Concur.mapM (List.forall₂_same.mpr fun c hc => Filter.concur_condition (h c hc))
  rw [Table.select_eq_bind]
  refine conditions.bind fun filters pss hfilters _ hbinds => ?_
  refine (Table.concur_ordering s q.order).bind fun order ps horder _ hps => ?_
  obtain ⟨rows, hrows⟩ := Table.exists_answering (le_length_of_own own) hfilters horder
  rw [hrows]
  refine ⟨filters, hfilters, ?_⟩
  have params : Statement.params ⟨Statement.selection s ++ Statement.whereClause pss ++ ps
      ++ [.word .limit, .number q.limit, .word .offset, .number q.offset]⟩
      = (pss.map Statement.binds).flatten := by
    show Statement.binds _ = _
    rw [Statement.binds_append, Statement.binds_append, Statement.binds_append,
      Statement.binds_selection, Statement.binds_whereClause, hps, List.nil_append,
      List.append_nil]
    exact List.append_nil _
  rw [params, List.flatMap_def]
  refine mapM_flatten_eq_ok ?_
  exact List.forall₂_map_left_iff.mpr (List.forall₂_map_right_iff.mpr hbinds)

namespace Store

/-- **A store and the statement for a query read the query alike**: where the rows are the
resource's own, those to be sorted can be sorted, and no number is too great to be bound, both
succeed or both fail with one failure. The store then answers with what any stable sort gives, and
the statement binds what the store compares with, in order. -/
theorem reads_alike (s : Schema) (q : Query) (st : Store)
    (own : ∀ r ∈ (st.table s.collection).rows, r.schema = s)
    (sortable : q.Sortable s (st.table s.collection)) (h : q.Binds s) :
    (∀ rows, (Store.select s q st).1 = .ok rows ↔ q.Selects s (st.table s.collection) rows) ∧
    ((∃ rows stmt filters, (Store.select s q st).1 = .ok rows ∧ Statement.select s q = .ok stmt ∧
      q.conditions.mapM (Filter.ofCondition s) = .ok filters ∧
      (filters.flatMap Filter.operands).mapM Bind.ofValue = .ok stmt.params) ∨
    ∃ failure, (Store.select s q st).1 = .error failure ∧
      Statement.select s q = .error failure) := by
  refine ⟨fun rows => Table.select_eq_ok_iff (Table.le_length_of_own own) sortable, ?_⟩
  rcases (Table.concur_select own h).cases with
    ⟨rows, stmt, hrows, hstmt, filters, hfilters, binds⟩ | ⟨failure, hrows, hstmt⟩
  · exact .inl ⟨rows, stmt, filters, hrows, hstmt, hfilters, binds⟩
  · exact .inr ⟨failure, hrows, hstmt⟩

open Statement (quoted quotedQuery)

/-- A small book. -/
def smallBook : Record := ⟨quoted, [.uint 8, .float 0.5], rfl⟩

/-- A large book. -/
def largeBook : Record := ⟨quoted, [.uint 7, .float 1.5], rfl⟩

/-- A store with two books, the small one first. -/
def twoBooks : Store := ⟨[(quoted.collection, ⟨[smallBook, largeBook], 0⟩)]⟩

theorem binds_quotedQuery {literals : List String} (h : ∀ text ∈ literals, ∀ n,
    Value.parse? .uint text = some (.uint n) → n.toNat ≤ Decimal.maxInt64) :
    (quotedQuery literals).Binds quoted := by
  intro c hc i hi text ht n _ hn
  obtain rfl := List.mem_singleton.mp hc
  obtain rfl := Option.some.inj (hi.symm.trans (rfl : quoted.index? "id" = some ⟨0, by decide⟩))
  exact h text ht n hn

/-- Neither book has a NaN for its size. -/
theorem sortable_twoBooks (literals : List String) :
    (quotedQuery literals).Sortable quoted (twoBooks.table quoted.collection) := by
  refine Query.sortable_of_hasKind fun o i ho hi r hr v hv => ?_
  obtain rfl := Option.some.inj ho
  obtain rfl := Option.some.inj (hi.symm.trans (rfl : quoted.index? "size" = some ⟨1, by decide⟩))
  rcases List.mem_pair.mp hr with rfl | rfl <;> obtain rfl := Option.some.inj hv <;>
    exact ⟨trivial, by decide⟩

theorem reads_alike_twoBooks :
    (∀ r ∈ (twoBooks.table quoted.collection).rows, r.schema = quoted) ∧
    (∀ literals, (quotedQuery literals).Sortable quoted (twoBooks.table quoted.collection)) ∧
    (quotedQuery ["7", "8"]).Binds quoted ∧ (quotedQuery ["7", "x"]).Binds quoted ∧
    (quotedQuery ["7", "8"]).Selects quoted (twoBooks.table quoted.collection)
      [largeBook, smallBook] ∧
    (∃ rows stmt, (Store.select quoted (quotedQuery ["7", "8"]) twoBooks).1 = .ok rows ∧
      Statement.select quoted (quotedQuery ["7", "8"]) = .ok stmt ∧
      stmt.params = [.int 7, .int 8]) ∧
    ∃ failure, (Store.select quoted (quotedQuery ["7", "x"]) twoBooks).1 = .error failure ∧
      Statement.select quoted (quotedQuery ["7", "x"]) = .error failure := by
  have own : ∀ r ∈ (twoBooks.table quoted.collection).rows, r.schema = quoted := by
    intro r hr
    rcases List.mem_pair.mp hr with rfl | rfl <;> rfl
  have binds : (quotedQuery ["7", "8"]).Binds quoted := by
    refine binds_quotedQuery fun text ht n hn => ?_
    rcases List.mem_pair.mp ht with rfl | rfl
    · obtain rfl : 7 = n := Value.uint.inj (Option.some.inj hn)
      decide
    · obtain rfl : 8 = n := Value.uint.inj (Option.some.inj hn)
      decide
  have binds' : (quotedQuery ["7", "x"]).Binds quoted := by
    refine binds_quotedQuery fun text ht n hn => ?_
    rcases List.mem_pair.mp ht with rfl | rfl
    · obtain rfl : 7 = n := Value.uint.inj (Option.some.inj hn)
      decide
    · have none : Value.parse? .uint "x" = none := rfl
      exact absurd (none.symm.trans hn) (by simp)
  obtain ⟨answers, read⟩ := reads_alike quoted _ twoBooks own (sortable_twoBooks _) binds
  refine ⟨own, sortable_twoBooks, binds, binds', (answers _).mp rfl, ?_, ?_⟩
  · rcases read with ⟨rows, stmt, filters, hrows, hstmt, hfilters, hparams⟩ | ⟨failure, hrows, -⟩
    · obtain rfl := Except.ok.inj hfilters
      exact ⟨rows, stmt, hrows, hstmt, (Except.ok.inj hparams).symm⟩
    · contradiction
  · rcases (reads_alike quoted _ twoBooks own (sortable_twoBooks _) binds').2 with
      ⟨rows, stmt, filters, -, -, hfilters, -⟩ | both
    · contradiction
    · exact both

end Store

end Registrar
