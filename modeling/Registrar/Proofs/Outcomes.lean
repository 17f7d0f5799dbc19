import Mathlib.Data.List.Forall2

/-!
# Outcomes taken apart

What a computation that may fail did, read off its success: the steps of a sequence each
succeeded, and a list was mapped member by member. What it can fail with is what its steps can fail
with (`Fails`). Two computations that take their steps together end together (`Concur`): both with
results that belong together, or both with one failure.
-/

namespace Registrar

variable {ε α β γ : Type}

/-- A sequence of two steps succeeds iff the first one does, and the second one after it. -/
theorem bind_eq_ok {x : Except ε α} {f : α → Except ε β} {b : β} :
    (x >>= f) = .ok b ↔ ∃ a, x = .ok a ∧ f a = .ok b := by
  cases x with
  | error e => simp [bind, Except.bind]
  | ok a => simp [bind, Except.bind]

theorem map_eq_ok {x : Except ε α} {f : α → β} {b : β} :
    x.map f = .ok b ↔ ∃ a, x = .ok a ∧ f a = b := by
  cases x with
  | error e => simp [Except.map]
  | ok a => simp [Except.map]

theorem pure_eq_ok {a b : α} : (pure a : Except ε α) = .ok b ↔ a = b := by
  simp [pure, Except.pure]

/-- A check and what comes after it succeed iff both do. -/
theorem seq_eq_ok {x : Except ε Unit} {y : Unit → Except ε β} {b : β} :
    (x >>= y) = .ok b ↔ x = .ok () ∧ y () = .ok b := by
  rw [bind_eq_ok]
  exact ⟨fun ⟨(), hx, hy⟩ => ⟨hx, hy⟩, fun ⟨hx, hy⟩ => ⟨(), hx, hy⟩⟩

/-- A list is mapped iff every member is, in order. -/
theorem mapM_eq_ok {f : α → Except ε β} : ∀ {xs : List α} {ys : List β},
    xs.mapM f = .ok ys ↔ List.Forall₂ (fun x y => f x = .ok y) xs ys
  | [], ys => by
    rw [List.mapM_nil, pure_eq_ok, List.forall₂_nil_left_iff]
    exact eq_comm
  | x :: xs, ys => by
    rw [List.mapM_cons, bind_eq_ok, List.forall₂_cons_left_iff]
    constructor
    · rintro ⟨y, hy, h⟩
      obtain ⟨rest, hrest, h⟩ := bind_eq_ok.mp h
      exact ⟨y, rest, hy, mapM_eq_ok.mp hrest, (pure_eq_ok.mp h).symm⟩
    · rintro ⟨y, rest, hy, hrest, rfl⟩
      exact ⟨y, hy, bind_eq_ok.mpr ⟨rest, mapM_eq_ok.mpr hrest, rfl⟩⟩

/-- A list can be mapped if every member can. -/
theorem exists_mapM_eq_ok {f : α → Except ε β} : ∀ {xs : List α}, (∀ x ∈ xs, ∃ y, f x = .ok y) →
    ∃ ys, xs.mapM f = .ok ys
  | [], _ => ⟨[], mapM_eq_ok.mpr .nil⟩
  | x :: xs, h => by
    obtain ⟨⟨y, hy⟩, h⟩ := List.forall_mem_cons.mp h
    obtain ⟨ys, hys⟩ := exists_mapM_eq_ok h
    exact ⟨y :: ys, mapM_eq_ok.mpr (.cons hy (mapM_eq_ok.mp hys))⟩

/-! ## What a computation fails with -/

section Fails

variable {p : ε → Prop} {x : Except ε α}

/-- Whatever a computation fails with has a property. -/
def Fails (p : ε → Prop) (x : Except ε α) : Prop := ∀ e, x = .error e → p e

theorem fails_ok (a : α) : Fails p (.ok a : Except ε α) := fun _ h => absurd h (by simp)

theorem fails_error {e : ε} (h : p e) : Fails p (.error e : Except ε α) := by
  intro _ same
  rw [← Except.error.inj same]
  exact h

theorem Fails.mono {q : ε → Prop} (h : Fails p x) (hpq : ∀ e, p e → q e) : Fails q x :=
  fun e failed => hpq e (h e failed)

theorem Fails.bind {f : α → Except ε β} (hx : Fails p x) (hf : ∀ a, x = .ok a → Fails p (f a)) :
    Fails p (x >>= f) := by
  cases x with
  | error e => exact fails_error (hx e rfl)
  | ok a => exact hf a rfl

theorem Fails.map (hx : Fails p x) (g : α → β) : Fails p (x.map g) := by
  cases x with
  | error e => exact fails_error (hx e rfl)
  | ok a => exact fails_ok _

theorem fails_mapM {f : α → Except ε β} : ∀ {xs : List α}, (∀ a ∈ xs, Fails p (f a)) →
    Fails p (xs.mapM f)
  | [], _ => fails_ok _
  | a :: xs, h => by
    obtain ⟨ha, hxs⟩ := List.forall_mem_cons.mp h
    rw [List.mapM_cons]
    exact ha.bind fun b _ => (fails_mapM hxs).bind fun bs _ => fails_ok _

end Fails

/-! ## Lists related member by member -/

theorem map_eq_of_forall₂ {f : α → γ} {g : β → γ} {xs : List α} {ys : List β}
    (h : List.Forall₂ (fun x y => g y = f x) xs ys) : ys.map g = xs.map f := by
  induction h with
  | nil => rfl
  | cons hx _ ih => rw [List.map_cons, List.map_cons, hx, ih]

theorem any_of_forall₂ {R : α → β → Prop} {p : α → Bool} {q : β → Bool} {xs : List α} {ys : List β}
    (h : List.Forall₂ R xs ys) (hpq : ∀ x y, R x y → p x = q y) : xs.any p = ys.any q := by
  induction h with
  | nil => rfl
  | cons hx _ ih => rw [List.any_cons, List.any_cons, hpq _ _ hx, ih]

theorem exists_of_forall₂ {R : α → β → Prop} {xs : List α} {ys : List β}
    (h : List.Forall₂ R xs ys) {y : β} (hy : y ∈ ys) : ∃ x ∈ xs, R x y := by
  induction h with
  | nil => exact absurd hy List.not_mem_nil
  | cons hx _ ih =>
    rcases List.mem_cons.mp hy with rfl | hy
    · exact ⟨_, List.mem_cons_self, hx⟩
    · obtain ⟨x, hm, hx⟩ := ih hy
      exact ⟨x, List.mem_cons_of_mem _ hm, hx⟩

/-- What holds of members in order holds of what they stand for. -/
theorem pairwise_of_forall₂ {R : α → β → Prop} {S : α → α → Prop} {T : β → β → Prop}
    (carry : ∀ a a' b b', S a a' → R a b → R a' b' → T b b') :
    ∀ {as : List α} {bs : List β}, List.Forall₂ R as bs → as.Pairwise S → bs.Pairwise T
  | _, _, .nil, _ => List.Pairwise.nil
  | _, _, .cons first rest, h => by
    obtain ⟨above, later⟩ := List.pairwise_cons.mp h
    refine List.pairwise_cons.mpr ⟨fun b hb => ?_, pairwise_of_forall₂ carry rest later⟩
    obtain ⟨a, ha, fits⟩ := exists_of_forall₂ rest hb
    exact carry _ _ _ _ (above a ha) first fits

theorem getElem?_of_forall₂ {R : α → β → Prop} {xs : List α} {ys : List β}
    (h : List.Forall₂ R xs ys) {i : Nat} {x : α} (hx : xs[i]? = some x) :
    ∃ y, ys[i]? = some y ∧ R x y := by
  induction h generalizing i with
  | nil => exact absurd hx (by simp)
  | cons hxy _ ih =>
    cases i with
    | zero =>
      obtain rfl := Option.some.inj hx
      exact ⟨_, rfl, hxy⟩
    | succ i => exact ih hx

/-- A list in parts is mapped if its parts are. -/
theorem mapM_flatten_eq_ok {f : α → Except ε β} {xss : List (List α)} {yss : List (List β)}
    (h : List.Forall₂ (fun xs ys => xs.mapM f = .ok ys) xss yss) :
    xss.flatten.mapM f = .ok yss.flatten :=
  mapM_eq_ok.mpr (List.rel_flatten (h.imp fun _ _ => mapM_eq_ok.mp))

/-! ## Computations side by side -/

section Concur

variable {δ : Type} {R : α → β → Prop} {S : γ → δ → Prop}

/-- Two computations both succeed, with results that are related, or both fail, and with the same
failure. -/
def Concur (R : α → β → Prop) : Except ε α → Except ε β → Prop
  | .ok a, .ok b => R a b
  | .error e, .error e' => e = e'
  | _, _ => False

theorem Concur.refl (x : Except ε α) : Concur (· = ·) x x := by
  cases x <;> exact rfl

theorem Concur.bind {x : Except ε α} {y : Except ε β} {f : α → Except ε γ} {g : β → Except ε δ}
    (h : Concur R x y) (hfg : ∀ a b, x = .ok a → y = .ok b → R a b → Concur S (f a) (g b)) :
    Concur S (x >>= f) (y >>= g) := by
  cases x with
  | error e =>
    cases y with
    | error e' => exact h
    | ok b => exact h.elim
  | ok a =>
    cases y with
    | error e' => exact h.elim
    | ok b => exact hfg a b rfl rfl h

theorem Concur.mapM {f : α → Except ε γ} {g : β → Except ε δ} {xs : List α} {ys : List β}
    (h : List.Forall₂ (fun a b => Concur S (f a) (g b)) xs ys) :
    Concur (List.Forall₂ S) (xs.mapM f) (ys.mapM g) := by
  induction h with
  | nil => exact .nil
  | cons hxy _ ih =>
    rw [List.mapM_cons, List.mapM_cons]
    exact hxy.bind fun _ _ _ _ hs => ih.bind fun _ _ _ _ hss => .cons hs hss

theorem Concur.mono {T : α → β → Prop} {x : Except ε α} {y : Except ε β} (h : Concur R x y)
    (hrt : ∀ a b, R a b → T a b) : Concur T x y := by
  cases x <;> cases y
  · exact h
  · exact h
  · exact h
  · exact hrt _ _ h

theorem Concur.map {x : Except ε α} {y : Except ε β} (h : Concur R x y) {f : α → γ} {g : β → δ}
    (hfg : ∀ a b, R a b → S (f a) (g b)) : Concur S (x.map f) (y.map g) := by
  cases x <;> cases y
  · exact h
  · exact h
  · exact h
  · exact hfg _ _ h

/-- Both succeed, or both fail alike. -/
theorem Concur.cases {x : Except ε α} {y : Except ε β} (h : Concur R x y) :
    (∃ a b, x = .ok a ∧ y = .ok b ∧ R a b) ∨ ∃ e, x = .error e ∧ y = .error e := by
  cases x with
  | error e =>
    cases y with
    | error e' => exact .inr ⟨e, rfl, congrArg Except.error h.symm⟩
    | ok b => exact h.elim
  | ok a =>
    cases y with
    | error e' => exact h.elim
    | ok b => exact .inl ⟨a, b, rfl, rfl, h⟩

end Concur

end Registrar
