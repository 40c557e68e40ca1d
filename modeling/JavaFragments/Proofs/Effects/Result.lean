/-! # Results

A result is a value or a failure.  What is done in steps succeeds if every step does, and fails as
the first of them that fails:

* `bind_eq_ok_iff`, `bind_eq_error_iff`   one step after another
* `Spares.bind`, `Spares.mapM`            failures of a kind that no step has -/

namespace JavaFragments

variable {ε α β : Type} {P : ε → Prop}

/-- One step after another succeeds if both do. -/
theorem bind_eq_ok_iff {x : Except ε α} {f : α → Except ε β} {b : β} :
    x >>= f = .ok b ↔ ∃ a, x = .ok a ∧ f a = .ok b := by
  cases x <;> simp [bind, Except.bind]

/-- One step after another fails if one of them does. -/
theorem bind_eq_error_iff {x : Except ε α} {f : α → Except ε β} {e : ε} :
    x >>= f = .error e ↔ x = .error e ∨ ∃ a, x = .ok a ∧ f a = .error e := by
  cases x <;> simp [bind, Except.bind]

/-! ## Results that are no failure of a kind -/

/-- A result is no failure of a kind. -/
def Spares (P : ε → Prop) (x : Except ε α) : Prop := ∀ e, x = .error e → ¬ P e

namespace Spares

/-- A value is no failure. -/
theorem ok (x : α) : Spares P (.ok x : Except ε α) := nofun

/-- A failure of another kind. -/
theorem error {e : ε} (h : ¬ P e) : Spares P (.error e : Except ε α) := by
  rintro _ ⟨⟩
  exact h

/-- One step after another has no such failure if neither has. -/
theorem bind {x : Except ε α} {k : α → Except ε β} (h : Spares P x) (hk : ∀ a, Spares P (k a)) :
    Spares P (x >>= k) := by
  cases x with
  | error e => exact error (h e rfl)
  | ok a => exact hk a

/-- What is made of a value is no failure. -/
theorem map {x : Except ε α} (h : Spares P x) (f : α → β) : Spares P (x.map f) := by
  cases x with
  | error e => exact error (h e rfl)
  | ok a => exact ok (f a)

/-- The same is done for every item of a list. -/
theorem mapM {f : α → Except ε β} (h : ∀ a, Spares P (f a)) (as : List α) :
    Spares P (as.mapM f) := by
  induction as with
  | nil =>
    rw [List.mapM_nil]
    exact ok []
  | cons a as ih =>
    rw [List.mapM_cons]
    refine (h a).bind fun b => ?_
    exact ih.bind fun bs => ok (b :: bs)

/-- One of two results, neither of which is such a failure. -/
theorem ite {c : Prop} [Decidable c] {x y : Except ε α} (hx : Spares P x) (hy : Spares P y) :
    Spares P (if c then x else y) := by
  split
  · exact hx
  · exact hy

/-- Items are asked one after the other until one of them has a property. -/
theorem anyM {f : α → Except ε Bool} (h : ∀ a, Spares P (f a)) (as : List α) :
    Spares P (as.anyM f) := by
  induction as with
  | nil => exact ok false
  | cons a as ih =>
    rw [List.anyM_cons]
    refine (h a).bind fun holds => ?_
    cases holds with
    | true => exact ok true -- the rest is not asked
    | false => exact ih

end Spares

end JavaFragments
