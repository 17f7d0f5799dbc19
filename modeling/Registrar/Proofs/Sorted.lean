import Mathlib.Data.List.Perm.Basic
import Registrar.Sorting

/-!
# What sorting does

Members of which none comes before another keep the order they had (`filter_sort`), whatever the
relation is. Where it is a strict weak order (`Weak`), no member stands behind one that it comes
before (`pairwise_sort`), and these two make the sorted list the only one of its kind
(`eq_of_stable`): what any other stable sort would make of the list is the same (`stable_iff`).
-/

namespace Registrar.Sorting

variable {α β : Type} {before : α → α → Bool}

/-- Among members with a property, of two at most one comes before the other, and not coming before
carries over. -/
structure Weak (before : α → α → Bool) (p : α → Prop) : Prop where
  asymm : ∀ a b, p a → p b → before a b = true → before b a = false
  trans : ∀ a b c, p a → p b → p c → before a b = false → before b c = false → before a c = false

theorem Weak.irrefl {p : α → Prop} (h : Weak before p) {a : α} (ha : p a) : before a a = false := by
  by_contra itself
  have := h.asymm a a ha ha (eq_true_of_ne_false itself)
  exact itself this

theorem Weak.mono {p q : α → Prop} (h : Weak before p) (hpq : ∀ a, q a → p a) : Weak before q :=
  ⟨fun a b ha hb => h.asymm a b (hpq a ha) (hpq b hb),
    fun a b c ha hb hc => h.trans a b c (hpq a ha) (hpq b hb) (hpq c hc)⟩

theorem Weak.comap {p : α → Prop} (h : Weak before p) (f : β → α) :
    Weak (fun a b => before (f a) (f b)) (fun a => p (f a)) :=
  ⟨fun a b => h.asymm (f a) (f b), fun a b c => h.trans (f a) (f b) (f c)⟩

/-- An order read backwards is one, too. -/
theorem Weak.flip {p : α → Prop} (h : Weak before p) : Weak (fun a b => before b a) p :=
  ⟨fun a b ha hb => h.asymm b a hb ha, fun a b c ha hb hc hab hbc =>
    h.trans c b a hc hb ha hbc hab⟩

/-! ## Members keep their order -/

theorem sort_map (f : β → α) (l : List β) :
    sort before (l.map f) = (sort (fun a b => before (f a) (f b)) l).map f := by
  have insert_map : ∀ (a : β) (l : List β),
      insert before (f a) (l.map f) = (insert (fun a b => before (f a) (f b)) a l).map f := by
    intro a l
    induction l with
    | nil => rfl
    | cons b rest ih =>
      unfold insert
      rw [List.map_cons, apply_ite (List.map f)]
      simp only [List.map_cons, ih]
  have fold : ∀ l sorted : List β,
      (l.map f).foldl (fun sorted a => insert before a sorted) (sorted.map f) =
        (l.foldl (fun sorted a => insert (fun a b => before (f a) (f b)) a sorted)
          sorted).map f := by
    intro l
    induction l with
    | nil => exact fun _ => rfl
    | cons a rest ih =>
      intro sorted
      rw [List.map_cons, List.foldl_cons, insert_map, ih, List.foldl_cons]
  unfold sort
  rw [List.map_reverse, ← fold l []]
  rfl

/-- Two lists related member by member stay so in inserting, if the orders do not tell related
members apart. -/
theorem forall₂_insert {R : α → β → Prop} {before' : β → β → Bool}
    (same : ∀ a a' b b', R a b → R a' b' → before a a' = before' b b') {a : α} {b : β}
    (hab : R a b) {l : List α} {l' : List β} (h : List.Forall₂ R l l') :
    List.Forall₂ R (insert before a l) (insert before' b l') := by
  induction h with
  | nil => exact .cons hab .nil
  | cons hcd hrest ih =>
    unfold insert
    rw [same _ _ _ _ hab hcd]
    split
    · exact .cons hcd ih
    · exact .cons hab (.cons hcd hrest)

theorem forall₂_sort {R : α → β → Prop} {before' : β → β → Bool}
    (same : ∀ a a' b b', R a b → R a' b' → before a a' = before' b b') {l : List α} {l' : List β}
    (h : List.Forall₂ R l l') : List.Forall₂ R (sort before l) (sort before' l') := by
  have fold : ∀ {sorted : List α} {sorted' : List β}, List.Forall₂ R sorted sorted' →
      List.Forall₂ R (l.foldl (fun sorted a => insert before a sorted) sorted)
        (l'.foldl (fun sorted b => insert before' b sorted) sorted') := by
    induction h with
    | nil => exact id
    | cons hab _ ih => exact fun hsorted => ih (forall₂_insert same hab hsorted)
  exact List.forall₂_reverse_iff.mpr (fold .nil)

/-- Inserting puts a member in front of those that it does not come before. -/
theorem filter_insert {p : α → Bool}
    (hp : ∀ a b, p a = true → p b = true → before a b = false) (a : α) (l : List α) :
    (insert before a l).filter p = if p a then a :: l.filter p else l.filter p := by
  induction l with
  | nil =>
    unfold insert
    rw [List.filter_cons]
  | cons b rest ih =>
    unfold insert
    split
    · rename_i passed
      rw [List.filter_cons, ih, List.filter_cons]
      by_cases ha : p a = true
      · by_cases hb : p b = true
        · rw [hp a b ha hb] at passed
          exact absurd passed (by simp)
        · simp [ha, hb]
      · simp [ha]
    · rw [List.filter_cons]

/-- **Members of which none comes before another keep their order.** -/
theorem filter_sort {p : α → Bool}
    (hp : ∀ a b, p a = true → p b = true → before a b = false) (l : List α) :
    (sort before l).filter p = l.filter p := by
  have fold : ∀ l sorted : List α,
      ((l.foldl (fun sorted a => insert before a sorted) sorted).filter p).reverse =
        (sorted.filter p).reverse ++ l.filter p := by
    intro l
    induction l with
    | nil => simp
    | cons a rest ih =>
      intro sorted
      rw [List.foldl_cons, ih, filter_insert hp, List.filter_cons]
      split <;> simp
  unfold sort
  rw [List.filter_reverse, fold l []]
  simp

/-! ## Members are in order -/

theorem pairwise_insert {p : α → Prop} (weak : Weak before p) {a : α} (ha : p a) :
    ∀ {l : List α}, (∀ b ∈ l, p b) → l.Pairwise (fun a b => before a b = false) →
      (insert before a l).Pairwise fun a b => before a b = false
  | [], _, _ => List.pairwise_singleton _ _
  | b :: rest, hl, sorted => by
    obtain ⟨hb, hrest⟩ := List.forall_mem_cons.mp hl
    obtain ⟨above, sorted⟩ := List.pairwise_cons.mp sorted
    unfold insert
    split
    · rename_i passed
      refine List.pairwise_cons.mpr ⟨fun c hc => ?_, pairwise_insert weak ha hrest sorted⟩
      rcases List.mem_cons.mp ((perm_insert before a rest).mem_iff.mp hc) with rfl | hc
      · exact weak.asymm _ _ ha hb passed
      · exact above c hc
    · rename_i stays
      have behind : before a b = false := eq_false_of_ne_true stays
      refine List.pairwise_cons.mpr ⟨fun c hc => ?_, List.pairwise_cons.mpr ⟨above, sorted⟩⟩
      rcases List.mem_cons.mp hc with rfl | hc
      · exact behind
      · exact weak.trans a b c ha hb (hrest c hc) behind (above c hc)

/-- **No member stands behind one that it comes before.** -/
theorem pairwise_sort {p : α → Prop} (weak : Weak before p) {l : List α} (hl : ∀ a ∈ l, p a) :
    (sort before l).Pairwise fun a b => before b a = false := by
  have fold : ∀ l sorted : List α, (∀ a ∈ l, p a) → (∀ a ∈ sorted, p a) →
      sorted.Pairwise (fun a b => before a b = false) →
      (l.foldl (fun sorted a => insert before a sorted) sorted).Pairwise
        fun a b => before a b = false := by
    intro l
    induction l with
    | nil => exact fun _ _ _ sorted => sorted
    | cons a rest ih =>
      intro done hl hdone sorted
      obtain ⟨ha, hrest⟩ := List.forall_mem_cons.mp hl
      refine ih _ hrest (fun b hb => ?_) (pairwise_insert weak ha hdone sorted)
      rcases List.mem_cons.mp ((perm_insert before a done).mem_iff.mp hb) with rfl | hb
      · exact ha
      · exact hdone b hb
  unfold sort
  rw [List.pairwise_reverse]
  exact fold l [] hl (fun a ha => absurd ha List.not_mem_nil) List.Pairwise.nil

/-! ## There is one such list -/

/-- Whether neither of two members comes before the other. -/
def tied (before : α → α → Bool) (a b : α) : Bool := !before a b && !before b a

theorem tied_iff {a b : α} : tied before a b = true ↔ before a b = false ∧ before b a = false := by
  unfold tied
  rw [Bool.and_eq_true, Bool.not_eq_true', Bool.not_eq_true']

/-- **Two lists in order are equal** if they have the same members and keep tied members in the same
order. -/
theorem eq_of_stable {p : α → Prop} (weak : Weak before p) : ∀ {l l' : List α},
    l.Perm l' → (∀ a ∈ l, p a) → l.Pairwise (fun a b => before b a = false) →
    l'.Pairwise (fun a b => before b a = false) →
    (∀ c, p c → l.filter (tied before c) = l'.filter (tied before c)) → l = l'
  | [], l', perm, _, _, _, _ => (List.nil_perm.mp perm).symm
  | a :: as, [], perm, _, _, _, _ => absurd perm (by simp)
  | a :: as, b :: bs, perm, hl, sorted, sorted', stable => by
    obtain ⟨ha, has⟩ := List.forall_mem_cons.mp hl
    obtain ⟨least, tail⟩ := List.pairwise_cons.mp sorted
    obtain ⟨least', tail'⟩ := List.pairwise_cons.mp sorted'
    have hb : p b := hl b (perm.mem_iff.mpr List.mem_cons_self)
    have behind : before b a = false := by
      rcases List.mem_cons.mp (perm.mem_iff.mpr List.mem_cons_self : b ∈ a :: as) with rfl | hb
      · exact weak.irrefl ha
      · exact least b hb
    have behind' : before a b = false := by
      rcases List.mem_cons.mp (perm.mem_iff.mp List.mem_cons_self : a ∈ b :: bs) with rfl | ha
      · exact weak.irrefl hb
      · exact least' a ha
    -- the two heads are tied, so each is the first of the members tied with it
    have heads : a = b := by
      have first := stable a ha
      rw [List.filter_cons_of_pos (tied_iff.mpr ⟨weak.irrefl ha, weak.irrefl ha⟩),
        List.filter_cons_of_pos (tied_iff.mpr ⟨behind', behind⟩)] at first
      exact (List.cons.inj first).1
    subst heads
    refine congrArg (a :: ·) (eq_of_stable weak perm.cons_inv has tail tail' fun c hc => ?_)
    have rest := stable c hc
    rw [List.filter_cons, List.filter_cons] at rest
    split at rest
    · exact (List.cons.inj rest).2
    · exact rest

/-- What every stable sort promises: the members are the same, none stands behind one that it comes
before, and tied members keep their order. -/
structure Stable (before : α → α → Bool) (l sorted : List α) : Prop where
  perm : sorted.Perm l
  ordered : sorted.Pairwise fun a b => before b a = false
  ties : ∀ a ∈ l, sorted.filter (tied before a) = l.filter (tied before a)

section Stable

variable {l sorted : List α}

theorem stable_sort (weak : Weak before (· ∈ l)) : Stable before l (sort before l) := by
  refine ⟨perm_sort before l, pairwise_sort weak fun _ h => h, fun a ha => ?_⟩
  classical
  -- the relation says nothing of what is not a member, so ties are looked at among members alone
  have members : ∀ L : List α, L.Perm l →
      L.filter (fun b => tied before a b && decide (b ∈ l)) = L.filter (tied before a) :=
    fun L perm => List.filter_congr fun b hb => by simp [perm.mem_iff.mp hb]
  rw [← members _ (perm_sort before l), ← members l (.refl l)]
  refine filter_sort (fun b c hb hc => ?_) l
  obtain ⟨hb, mb⟩ := Bool.and_eq_true_iff.mp hb
  obtain ⟨hc, mc⟩ := Bool.and_eq_true_iff.mp hc
  exact weak.trans b a c (of_decide_eq_true mb) ha (of_decide_eq_true mc) (tied_iff.mp hb).2
    (tied_iff.mp hc).1

/-- **Every stable sort makes the same of a list**, if the relation is a strict weak order among its
members. -/
theorem stable_iff (weak : Weak before (· ∈ l)) :
    Stable before l sorted ↔ sorted = sort before l := by
  have done := stable_sort weak
  constructor
  · intro h
    refine eq_of_stable weak (h.perm.trans done.perm.symm) (fun a ha => h.perm.mem_iff.mp ha)
      h.ordered done.ordered fun a ha => (h.ties a ha).trans (done.ties a ha).symm
  · rintro rfl
    exact done

end Stable

end Registrar.Sorting
