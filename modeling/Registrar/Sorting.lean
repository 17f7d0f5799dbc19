/-!
# Stable sorting

A list is sorted by inserting its members one after the other, each behind every member that it
does not come before. Members of which neither comes before the other thus keep the order they
had.

* `perm_sort`: sorting loses nothing and adds nothing.

Out of scope: what another sort makes of a list where `before` is no strict weak order, and whether
it comes to an end. Where it is one, stable sorts agree.
-/

namespace Registrar.Sorting

variable {α : Type}

/-- Insert `a` into a list that is held last member first: it moves towards the front past the
members that it comes before. -/
def insert (before : α → α → Bool) (a : α) : List α → List α
  | [] => [a]
  | b :: rest => if before a b then b :: insert before a rest else a :: b :: rest

/-- Sort a list by a relation that says when one member must come before another. Where the relation
is a strict weak order, every stable sort gives this list. -/
def sort (before : α → α → Bool) (l : List α) : List α :=
  (l.foldl (fun sorted a => insert before a sorted) []).reverse

theorem perm_insert (before : α → α → Bool) (a : α) (l : List α) :
    (insert before a l).Perm (a :: l) := by
  induction l with
  | nil => exact .refl _
  | cons b rest ih =>
    simp only [insert]
    split
    · exact (ih.cons b).trans (.swap a b rest)
    · exact .refl _

/-- Sorting loses nothing and adds nothing. -/
theorem perm_sort (before : α → α → Bool) (l : List α) : (sort before l).Perm l := by
  have fold : ∀ l sorted : List α,
      (l.foldl (fun sorted a => insert before a sorted) sorted).Perm (sorted ++ l) := by
    intro l
    induction l with
    | nil => simp
    | cons a rest ih =>
      intro sorted
      refine (ih _).trans ?_
      refine ((perm_insert before a sorted).append_right rest).trans ?_
      exact List.perm_middle.symm
  exact (List.reverse_perm _).trans (fold l [])

end Registrar.Sorting
