import Mathlib.Logic.Basic

/-!
# Computations that may fail

Equations for the steps of a computation in `Except`, and what can be said of its outcome:
`Succeeds` says that there is one, `Ensures` what holds of it, and `FailsOnly` what holds of an error.
-/

set_option autoImplicit false

namespace Assay.Outcome

variable {ε α β : Type}

/-- A value is passed on. -/
@[simp]
theorem ok_bind (a : α) (f : α → Except ε β) : ((Except.ok a : Except ε α) >>= f) = f a := rfl

/-- An error ends the computation. -/
@[simp]
theorem error_bind (e : ε) (f : α → Except ε β) :
    ((Except.error e : Except ε α) >>= f) = .error e := rfl

/-- A value is changed. -/
@[simp]
theorem map_ok (a : α) (f : α → β) : (f <$> (Except.ok a : Except ε α)) = .ok (f a) := rfl

/-- An error stays. -/
@[simp]
theorem map_error (e : ε) (f : α → β) : (f <$> (Except.error e : Except ε α)) = .error e := rfl

/-- Two steps give a value if both do. -/
theorem bind_eq_ok {x : Except ε α} {f : α → Except ε β} {b : β} :
    x >>= f = .ok b ↔ ∃ a, x = .ok a ∧ f a = .ok b := by
  cases x with
  | error e => simp
  | ok a => simp

/-- A pure step gives its value. -/
@[simp]
theorem pure_eq_ok {a b : α} : (pure a : Except ε α) = .ok b ↔ a = b := by
  simp [pure, Except.pure]

/-- The computation gives something. -/
def Succeeds (x : Except ε α) : Prop := ∃ a, x = .ok a

/-- A value is a success. -/
@[simp]
theorem succeeds_ok (a : α) : Succeeds (Except.ok a : Except ε α) := ⟨a, rfl⟩

/-- So is a pure step. -/
@[simp]
theorem succeeds_pure (a : α) : Succeeds (pure a : Except ε α) := ⟨a, rfl⟩

/-- Two steps succeed if both do. -/
theorem Succeeds.bind {x : Except ε α} {f : α → Except ε β} (hx : Succeeds x)
    (hf : ∀ a, x = .ok a → Succeeds (f a)) : Succeeds (x >>= f) := by
  obtain ⟨a, ha⟩ := hx
  rw [ha]
  exact hf a ha

/-- And if they succeed, so does each. -/
theorem Succeeds.of_bind {x : Except ε α} {f : α → Except ε β} (h : Succeeds (x >>= f)) :
    ∃ a, x = .ok a ∧ Succeeds (f a) := by
  obtain ⟨b, hb⟩ := h
  obtain ⟨a, ha, hfa⟩ := bind_eq_ok.1 hb
  exact ⟨a, ha, b, hfa⟩

/-- Steps over a list succeed if each does. -/
theorem succeeds_mapM {xs : List α} {f : α → Except ε β} (h : ∀ x ∈ xs, Succeeds (f x)) :
    Succeeds (xs.mapM f) := by
  induction xs with
  | nil => exact succeeds_pure _
  | cons x xs ih =>
    obtain ⟨hx, hRest⟩ := List.forall_mem_cons.1 h
    rw [List.mapM_cons]
    exact hx.bind fun _ _ => (ih hRest).bind fun _ _ => succeeds_pure _

/-- And if they succeed, so does each. -/
theorem succeeds_of_mapM {xs : List α} {f : α → Except ε β} {ys : List β}
    (h : xs.mapM f = .ok ys) : ∀ x ∈ xs, Succeeds (f x) := by
  induction xs generalizing ys with
  | nil => simp
  | cons x xs ih =>
    rw [List.mapM_cons] at h
    obtain ⟨y, hy, hRest⟩ := bind_eq_ok.1 h
    obtain ⟨rest, hOthers, -⟩ := bind_eq_ok.1 hRest
    exact List.forall_mem_cons.2 ⟨⟨y, hy⟩, ih hOthers⟩

/-- What the computation gives, if it gives something, has the property. -/
def Ensures (x : Except ε α) (p : α → Prop) : Prop := ∀ a, x = .ok a → p a

/-- A value has the property. -/
@[simp]
theorem ensures_ok {a : α} {p : α → Prop} : Ensures (.ok a : Except ε α) p ↔ p a := by
  simp [Ensures]

/-- So has that of a pure step. -/
@[simp]
theorem ensures_pure {a : α} {p : α → Prop} : Ensures (pure a : Except ε α) p ↔ p a := ensures_ok

/-- An error ensures anything. -/
@[simp]
theorem ensures_error {e : ε} {p : α → Prop} : Ensures (.error e : Except ε α) p := by
  simp [Ensures]

/-- The second step ensures the property for what the first gives. -/
theorem ensures_bind {x : Except ε α} {f : α → Except ε β} {p : β → Prop} :
    Ensures (x >>= f) p ↔ ∀ a, x = .ok a → Ensures (f a) p := by
  cases x with
  | error e => simp [Ensures]
  | ok a => simp [Ensures]

/-- A changed value has the property. -/
theorem ensures_map {x : Except ε α} {f : α → β} {p : β → Prop} :
    Ensures (f <$> x) p ↔ Ensures x fun a => p (f a) := by
  cases x with
  | error e => simp [Ensures]
  | ok a => simp [Ensures]

/-- Nothing is to be ensured. -/
@[simp]
theorem ensures_true {x : Except ε α} : Ensures x fun _ => True := fun _ _ => trivial

/-- What goes wrong in the computation, if something does, has the property. -/
def FailsOnly (x : Except ε α) (p : ε → Prop) : Prop := ∀ e, x = .error e → p e

/-- A value is no failure. -/
@[simp]
theorem failsOnly_ok {a : α} {p : ε → Prop} : FailsOnly (.ok a : Except ε α) p := by
  simp [FailsOnly]

/-- Nor is a pure step. -/
@[simp]
theorem failsOnly_pure {a : α} {p : ε → Prop} : FailsOnly (pure a : Except ε α) p := failsOnly_ok

/-- An error is allowed. -/
@[simp]
theorem failsOnly_error {e : ε} {p : ε → Prop} : FailsOnly (.error e : Except ε α) p ↔ p e := by
  simp [FailsOnly]

/-- Either step may fail as allowed. -/
theorem FailsOnly.bind {x : Except ε α} {f : α → Except ε β} {p : ε → Prop} (hx : FailsOnly x p)
    (hf : ∀ a, x = .ok a → FailsOnly (f a) p) : FailsOnly (x >>= f) p := by
  cases x with
  | error e => simpa using hx
  | ok a => exact hf a rfl

/-- A pure step behind it does not fail. -/
theorem FailsOnly.bind_pure {x : Except ε α} {f : α → β} {p : ε → Prop} (h : FailsOnly x p) :
    FailsOnly (x >>= fun a => pure (f a)) p :=
  h.bind fun _ _ => failsOnly_pure

/-- Nor does a change. -/
theorem FailsOnly.map {x : Except ε α} {p : ε → Prop} (h : FailsOnly x p) (f : α → β) :
    FailsOnly (f <$> x) p := by
  cases x with
  | error e => simpa using h
  | ok a => exact failsOnly_ok

/-- Steps over a list fail as each may. -/
theorem failsOnly_mapM {xs : List α} {f : α → Except ε β} {p : ε → Prop}
    (h : ∀ x ∈ xs, FailsOnly (f x) p) : FailsOnly (xs.mapM f) p := by
  induction xs with
  | nil => simp
  | cons x xs ih =>
    rw [List.mapM_cons]
    refine (h x List.mem_cons_self).bind fun _ _ => ?_
    exact (ih fun y hy => h y (List.mem_cons_of_mem _ hy)).bind fun _ _ => failsOnly_pure

end Assay.Outcome
