import Registrar.Proofs.Executors

/-!
# Queries that parameters make

The compiled query of parameters has what the grammars say, and can be run: every condition and the
order are on fields of the schema, the window can be bound, and so a store and a statement can only
object to a literal, unless a row misses a value.

* `Table.fails_select`, `Statement.fails_select`: what a query on fields of the schema fails with.
* **`Query.compile_grammar`**: which parameters make a query, which query, and that it can be run.
-/

namespace Registrar

/-! ## Running what was read -/

section Running

variable {s : Schema} {q : Query} {t : Table}

/-- What a store can fail with on a query that names fields of its schema: an objection to a
literal, or a row without a value where the query looks. -/
def Failure.OfRows (failure : Failure) : Prop :=
  failure.IsObjection ∨ ∃ i, failure = .crash (.missingValue i)

namespace Filter

theorem fails_accepted (f : Filter) (r : Record) : Fails Failure.OfRows (f.accepted r) := by
  unfold accepted
  split
  · exact fails_ok _
  · exact fails_error (.inr ⟨_, rfl⟩)

theorem fails_allAccepted (r : Record) : ∀ filters : List Filter,
    Fails Failure.OfRows (allAccepted filters r)
  | [] => fails_ok _
  | f :: rest => by
    refine (f.fails_accepted r).bind fun passes _ => ?_
    cases passes with
    | true => exact fails_allAccepted r rest
    | false => exact fails_ok _

theorem fails_keep (filters : List Filter) : ∀ rows : List Record,
    Fails Failure.OfRows (keep filters rows)
  | [] => fails_ok _
  | r :: rest => (fails_allAccepted r filters).bind fun _ _ =>
      (fails_keep filters rest).bind fun _ _ => fails_ok _

end Filter

namespace Table

theorem fails_arrange (i : Nat) (d : Direction) (rows : List Record) :
    Fails Failure.OfRows (arrange i d rows) := by
  unfold arrange
  split
  · exact fails_ok _
  · refine (fails_mapM fun r _ => ?_).bind fun _ _ => fails_ok _
    split
    · exact fails_ok _
    · exact fails_error (.inr ⟨_, rfl⟩)

theorem fails_answering (filters : List Filter) (order : Option (Nat × Direction)) :
    Fails Failure.OfRows (t.answering q filters order) := by
  refine (Filter.fails_keep filters t.rows).bind fun rows _ => ?_
  cases order with
  | none => exact fails_ok _
  | some o => exact (fails_arrange o.1 o.2 rows).bind fun _ _ => fails_ok _

/-- **A store can run a query on fields of the schema**, as far as literals and rows go. -/
theorem fails_select (conditions : ∀ c ∈ q.conditions, (s.index? c.field).isSome = true)
    (order : ∀ o, q.order = some o → (s.index? o.field).isSome = true) :
    Fails Failure.OfRows (t.select s q) := by
  rw [select_eq_bind]
  refine (fails_mapM fun c hc => ?_).bind fun filters _ => ?_
  · exact (Filter.fails_ofCondition (conditions c hc)).mono fun _ => .inl
  · obtain ⟨o, ho⟩ := exists_ordering order
    rw [ho]
    exact fails_answering filters o

end Table

namespace Statement

theorem fails_ofValue (v : Value) : Fails Failure.IsObjection (Bind.ofValue v) := by
  cases v with
  | uint n =>
    simp only [Bind.ofValue]
    split
    · exact fails_ok _
    · exact fails_error ⟨_, rfl⟩
  | _ => exact fails_ok _

theorem fails_literal (f : Field) (text : String) : Fails Failure.IsObjection (literal f text) :=
  (f.fails_literal text).bind fun v _ => (fails_ofValue v).map _

/-- **A statement can be written for a query on fields of the schema**, as far as literals go. -/
theorem fails_select (conditions : ∀ c ∈ q.conditions, (s.index? c.field).isSome = true)
    (order : ∀ o, q.order = some o → (s.index? o.field).isSome = true) :
    Fails Failure.IsObjection (select s q) := by
  refine (fails_mapM fun c hc => ?_).bind fun _ _ => Fails.bind ?_ fun _ _ => fails_ok _
  · obtain ⟨i, hi⟩ := Option.isSome_iff_exists.mp (conditions c hc)
    have named : s.field? c.field = some (s.fields.get i) := congrArg (Option.map _) hi
    rw [condition_eq named]
    exact (fails_mapM fun text _ => fails_literal _ text).map _
  · unfold orderClause
    cases ho : q.order with
    | none => exact fails_ok _
    | some o =>
      obtain ⟨i, hi⟩ := Option.isSome_iff_exists.mp (order o ho)
      simp only [Schema.field?, hi]
      exact fails_ok _

end Statement

end Running

namespace Query

/-- **What parameters say.** Parameters are refused just if the first value given for an order is
no order. Otherwise there is one condition for each key that is understood, asked for by the first
value of the key, and no other; the window can be bound, and the query can be run on any store, and
written as a statement, without a defect. -/
theorem compile_grammar {s : Schema} (resolved : s.Resolved) (params : List (String × String)) :
    ((∃ fault, compile s params = .error fault) ↔
      ∃ value, params.lookup "q-order" = some value ∧ ¬ ∃ o, s.AsksOrder value o) ∧
    (∀ text i, s.Filterable text i → s.index? (s.fields.get i).name = some i) ∧
    (∀ key value, (∃ c, s.Asks value key c) ↔ s.Understands key) ∧
    (∀ key value c, s.Asks value key c →
      (c.operator = .among ↔ ∃ values, c.operand = .many values) ∧
      c.operand.literals ≠ [] ∧ ",".intercalate c.operand.literals = value) ∧
    ∀ q, compile s params = .ok q →
      (∃ asked : List (String × Condition),
        (asked.map (·.1)).Nodup ∧ (asked.map (·.2)).Perm q.conditions ∧
        ∀ key c, (key, c) ∈ asked ↔
          ∃ value, params.lookup key = some value ∧ s.Asks value key c) ∧
      (∀ o, q.order = some o ↔
        ∃ value, params.lookup "q-order" = some value ∧ s.AsksOrder value o) ∧
      q.limit ≤ Decimal.maxInt64 ∧ q.offset ≤ Decimal.maxInt64 ∧
      (∀ st defect, (Store.select s q st).1 ≠ .error (.internal defect)) ∧
      ∀ defect, Statement.select s q ≠ .error (.internal defect) := by
  refine ⟨?_, fun text i _ => (Schema.index?_eq_some_iff resolved.sound).mpr rfl,
    fun key value => Schema.exists_asks_iff, fun key value c asks =>
      ⟨asks.among_iff, asks.operand_literals⟩, fun q h => ?_⟩
  · rw [compile_eq, ← exists_orderAsked_eq_error_iff]
    cases orderAsked s params <;> simp [Except.map]
  · obtain ⟨named, ordered⟩ := index?_of_compile h
    obtain ⟨o, ho, rfl⟩ := compile_eq_ok.mp h
    refine ⟨⟨asked s params, nodup_asked s params, ?_, fun key c => mem_asked_iff⟩, fun o' => ?_,
      ?_, ?_, fun st defect failed => ?_, fun defect failed => ?_⟩
    · show List.Perm _ (unordered s params).conditions
      rw [unordered_conditions]
      exact (Sorting.perm_sort _ _).symm
    · rw [← orderAsked_eq_ok_iff, ho, Except.ok.injEq]
    · exact getD_count_le _ (by decide)
    · exact getD_count_le _ (by decide)
    · rcases Table.fails_select named ordered _ failed with ⟨why, same⟩ | ⟨i, same⟩
      · exact absurd same (by simp)
      · exact absurd same (by simp)
    · obtain ⟨why, same⟩ := Statement.fails_select named ordered _ failed
      exact absurd same (by simp)

/-- A choice, keys that are not understood, a key that comes again, and an order. -/
def wanted : List (String × String) :=
  [("in-ID", "1,2"), ("Id", "1"), ("in-ID", "3"), ("in-id-id", "4"), ("ne-id", "5"),
    ("q-order", "desc-id")]

theorem compile_wanted : compile note wanted =
    .ok ⟨[⟨"id", .eq, .single "1"⟩, ⟨"id", .among, .many ["1", "2"]⟩], some ⟨"id", .descending⟩,
      1000, 0, none⟩ := by
  cbv

theorem compile_grammar_wanted :
    note.Resolved ∧
    (∃ value, wanted.lookup "q-order" = some value ∧ note.AsksOrder value ⟨"id", .descending⟩) ∧
    (¬ ∃ value, wanted.lookup "q-order" = some value ∧ ¬ ∃ o, note.AsksOrder value o) ∧
    ∃ asked : List (String × Condition), (asked.map (·.1)).Nodup ∧ (asked.map (·.2)).Perm
      [⟨"id", .eq, .single "1"⟩, ⟨"id", .among, .many ["1", "2"]⟩] := by
  obtain ⟨refused, -, -, -, said⟩ := compile_grammar resolved_note wanted
  obtain ⟨⟨asked, keys, conditions, -⟩, order, -⟩ := said _ compile_wanted
  refine ⟨resolved_note, (order _).mp rfl, fun bad => ?_, asked, keys, conditions⟩
  obtain ⟨fault, failed⟩ := refused.mpr bad
  exact absurd (compile_wanted.symm.trans failed) (by simp)

end Query

end Registrar
