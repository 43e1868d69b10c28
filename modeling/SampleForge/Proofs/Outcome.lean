import Mathlib.Data.List.Forall2

/-!
# Laws of outcomes

A computation that may fail gives an `Except`.  The laws here take one apart: a sequence succeeds
when its first part and then its second part do, and a traversal of a list or a fold over it fails
at the first member whose step does (`mapM_eq_error`, `foldlM_eq_error`).

Two outcomes agree (`Agree`) when they fail in the same way or their results are related.  What is
made of parts that agree agrees itself.
-/

namespace SampleForge.Outcome

variable {ε α β γ : Type}

@[simp] theorem bind_ok (a : α) (f : α → Except ε β) : (Except.ok a >>= f) = f a := rfl

@[simp] theorem bind_error (e : ε) (f : α → Except ε β) :
    ((Except.error e : Except ε α) >>= f) = .error e := rfl

@[simp] theorem pure_eq (a : α) : (pure a : Except ε α) = .ok a := rfl

theorem exists_error_iff {x : Except ε α} : (∃ e, x = .error e) ↔ ¬ ∃ a, x = .ok a := by
  cases x with
  | error e => simp
  | ok a => simp

theorem bind_eq_ok {x : Except ε α} {f : α → Except ε β} {b : β} :
    (x >>= f) = .ok b ↔ ∃ a, x = .ok a ∧ f a = .ok b := by
  cases x with
  | error e => simp
  | ok a => simp

/-- A check comes before what it guards. -/
theorem check_bind_eq_ok {x : Except ε Unit} {y : Except ε β} {b : β} :
    (x >>= fun _ => y) = .ok b ↔ x = .ok () ∧ y = .ok b := by
  cases x with
  | error e => simp
  | ok u => simp

theorem map_eq_ok {x : Except ε α} {f : α → β} {b : β} :
    x.map f = .ok b ↔ ∃ a, x = .ok a ∧ f a = b := by
  cases x with
  | error e => simp [Except.map]
  | ok a => simp [Except.map]

theorem map_eq_error {x : Except ε α} {f : α → β} {e : ε} : x.map f = .error e ↔ x = .error e := by
  cases x with
  | error e' => simp [Except.map]
  | ok a => simp [Except.map]

theorem mapError_eq_ok {ε' : Type} {x : Except ε α} {f : ε → ε'} {a : α} :
    x.mapError f = .ok a ↔ x = .ok a := by
  cases x with
  | error e => simp [Except.mapError]
  | ok a' => simp [Except.mapError]

theorem mapError_eq_error {ε' : Type} {x : Except ε α} {f : ε → ε'} {e' : ε'} :
    x.mapError f = .error e' ↔ ∃ e, x = .error e ∧ f e = e' := by
  cases x with
  | error e => simp [Except.mapError]
  | ok a => simp [Except.mapError]

theorem map_map (x : Except ε α) (f : α → β) (g : β → γ) :
    (x.map f).map g = x.map fun a => g (f a) := by
  cases x with
  | error e => rfl
  | ok a => rfl

theorem map_bind (x : Except ε α) (f : α → Except ε β) (g : β → γ) :
    (x >>= f).map g = x >>= fun a => (f a).map g := by
  cases x with
  | error e => rfl
  | ok a => rfl

theorem bind_map (x : Except ε α) (f : α → β) (g : β → Except ε γ) :
    x.map f >>= g = x >>= fun a => g (f a) := by
  cases x with
  | error e => rfl
  | ok a => rfl

/-- A traversal succeeds exactly if each of its steps does. -/
theorem mapM_eq_ok {f : α → Except ε β} {xs : List α} {ys : List β} :
    xs.mapM f = .ok ys ↔ List.Forall₂ (fun x y => f x = .ok y) xs ys := by
  induction xs generalizing ys with
  | nil =>
    rw [List.mapM_nil, List.forall₂_nil_left_iff, pure_eq, Except.ok.injEq, eq_comm]
  | cons x rest ih =>
    rw [List.mapM_cons, List.forall₂_cons_left_iff, bind_eq_ok]
    simp only [bind_eq_ok, ih, pure_eq, Except.ok.injEq]
    constructor
    · rintro ⟨y, hy, others, hothers, rfl⟩
      exact ⟨y, others, hy, hothers, rfl⟩
    · rintro ⟨y, others, hy, hothers, rfl⟩
      exact ⟨y, hy, others, hothers, rfl⟩

theorem exists_mapM_eq_ok {f : α → Except ε β} {xs : List α} (h : ∀ x ∈ xs, ∃ y, f x = .ok y) :
    ∃ ys, xs.mapM f = .ok ys := by
  simp only [mapM_eq_ok]
  induction xs with
  | nil => exact ⟨[], .nil⟩
  | cons x rest ih =>
    obtain ⟨⟨y, hy⟩, hrest⟩ := List.forall_mem_cons.1 h
    obtain ⟨others, hothers⟩ := ih hrest
    exact ⟨y :: others, .cons hy hothers⟩

/-- A traversal fails exactly if a step does, after those before it have succeeded. -/
theorem mapM_eq_error {f : α → Except ε β} {xs : List α} {e : ε} :
    xs.mapM f = .error e ↔
      ∃ before x after, xs = before ++ x :: after ∧ (∀ y ∈ before, ∃ b, f y = .ok b) ∧
        f x = .error e := by
  induction xs with
  | nil => simp
  | cons x xs ih =>
    rw [List.mapM_cons]
    cases hstep : f x with
    | error e' =>
      rw [bind_error, Except.error.injEq]
      constructor
      · rintro rfl
        exact ⟨[], x, xs, rfl, List.forall_mem_nil _, hstep⟩
      · rintro ⟨before, y, after, hxs, hbefore, hy⟩
        cases before with
        | nil =>
          cases hxs
          rw [hstep] at hy
          exact Except.error.inj hy
        | cons z before =>
          cases hxs
          obtain ⟨b, hb⟩ := hbefore x List.mem_cons_self
          rw [hstep] at hb
          cases hb
    | ok next =>
      have hrest : (xs.mapM f >>= fun others => pure (next :: others)) = .error e ↔
          xs.mapM f = .error e := by
        cases xs.mapM f with
        | error e' => rfl
        | ok others => simp
      rw [bind_ok, hrest, ih]
      constructor
      · rintro ⟨before, y, after, rfl, hbefore, hy⟩
        exact ⟨x :: before, y, after, rfl, List.forall_mem_cons.2 ⟨⟨next, hstep⟩, hbefore⟩, hy⟩
      · rintro ⟨before, y, after, hxs, hbefore, hy⟩
        cases before with
        | nil =>
          cases hxs
          rw [hstep] at hy
          cases hy
        | cons z before =>
          cases hxs
          exact ⟨before, y, after, rfl, (List.forall_mem_cons.1 hbefore).2, hy⟩

/-- A fold fails exactly if a step does, after those before it have succeeded. -/
theorem foldlM_eq_error {f : β → α → Except ε β} {start : β} {xs : List α} {e : ε} :
    xs.foldlM f start = .error e ↔
      ∃ before x after middle, xs = before ++ x :: after ∧ before.foldlM f start = .ok middle ∧
        f middle x = .error e := by
  induction xs generalizing start with
  | nil => simp
  | cons x xs ih =>
    rw [List.foldlM_cons]
    cases hstep : f start x with
    | error e' =>
      rw [bind_error]
      constructor
      · rintro ⟨⟩
        exact ⟨[], x, xs, start, rfl, rfl, hstep⟩
      · rintro ⟨before, y, after, middle, hxs, hbefore, hy⟩
        cases before with
        | nil =>
          cases hxs
          cases hbefore
          exact hstep.symm.trans hy
        | cons z before =>
          cases hxs
          rw [List.foldlM_cons, hstep] at hbefore
          cases hbefore
    | ok next =>
      rw [bind_ok, ih]
      constructor
      · rintro ⟨before, y, after, middle, rfl, hbefore, hy⟩
        refine ⟨x :: before, y, after, middle, rfl, ?_, hy⟩
        rw [List.foldlM_cons, hstep, bind_ok, hbefore]
      · rintro ⟨before, y, after, middle, hxs, hbefore, hy⟩
        cases before with
        | nil =>
          cases hxs
          cases hbefore
          rw [hstep] at hy
          cases hy
        | cons z before =>
          cases hxs
          rw [List.foldlM_cons, hstep, bind_ok] at hbefore
          exact ⟨before, y, after, middle, rfl, hbefore, hy⟩

/-! ## Outcomes that agree -/

/-- Outcomes with the same error or related results. -/
inductive Agree {ε α β : Type} (R : α → β → Prop) : Except ε α → Except ε β → Prop where
  | error (e : ε) : Agree R (.error e) (.error e)
  | ok {a : α} {b : β} (h : R a b) : Agree R (.ok a) (.ok b)

namespace Agree

variable {δ : Type} {R : α → β → Prop} {S : γ → δ → Prop}

theorem refl {R : α → α → Prop} (h : ∀ a, R a a) (x : Except ε α) : Agree R x x := by
  cases x with
  | error e => exact .error e
  | ok a => exact .ok (h a)

theorem map {x : Except ε α} {y : Except ε β} {f : α → γ} {g : β → δ} (h : Agree R x y)
    (hresult : ∀ a b, R a b → S (f a) (g b)) : Agree S (x.map f) (y.map g) := by
  cases h with
  | error e => exact .error e
  | ok hab => exact .ok (hresult _ _ hab)

theorem bind {x : Except ε α} {y : Except ε β} {f : α → Except ε γ} {g : β → Except ε δ}
    (h : Agree R x y) (hrest : ∀ a b, R a b → Agree S (f a) (g b)) :
    Agree S (x >>= f) (y >>= g) := by
  cases h with
  | error e => exact .error e
  | ok hab => exact hrest _ _ hab

/-- Folds agree if their steps do. -/
theorem foldlM {f : γ → α → Except ε γ} {g : δ → β → Except ε δ} {xs : List α} {ys : List β}
    (h : List.Forall₂ R xs ys)
    (hstep : ∀ s t, S s t → ∀ x y, R x y → Agree S (f s x) (g t y)) {s : γ} {t : δ}
    (hstart : S s t) : Agree S (xs.foldlM f s) (ys.foldlM g t) := by
  induction h generalizing s t with
  | nil => exact .ok hstart
  | cons hxy _ ih =>
    rw [List.foldlM_cons, List.foldlM_cons]
    exact (hstep s t hstart _ _ hxy).bind fun _ _ => ih

end Agree

end SampleForge.Outcome
