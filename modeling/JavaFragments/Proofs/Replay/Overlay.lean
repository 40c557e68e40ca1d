/-! # Runs behind what others have left

An `Overlay` puts a state behind what others have left, and says what no operation changes.
`Follows` holds of two computations of which the second does there what the first does
without the others: it comes to the same, up to a function that puts results behind them as
well.  Computations follow each other if their parts do:

* `Follows.pure`, `Follows.throw`, `Follows.lift`   what does nothing with the state
* `Follows.bind`, `Follows.mapM`                    one computation after another -/

namespace JavaFragments

/-- A way to put a state behind what others have left, and what no operation changes. -/
structure Overlay (σ : Type) where
  place : σ → σ
  keeps : σ → σ → Prop
  refl : ∀ s, keeps s s
  trans : ∀ {s t u}, keeps s t → keeps t u → keeps s u

/-- Something that is done with a state and may fail. -/
abbrev Doing (ε σ α : Type) := ExceptT ε (StateM σ) α

variable {σ ε α β γ δ : Type}

/-- `b` does behind what others have left what `a` does without them. -/
structure Follows (o : Overlay σ) (f : α → β) (a : Doing ε σ α) (b : Doing ε σ β) : Prop where
  result : ∀ s, b.run.run (o.place s) = ((a.run.run s).1.map f, o.place (a.run.run s).2)
  keeps : ∀ s, o.keeps s (a.run.run s).2

/-- A computation after another starts from the state that the first one leaves. -/
theorem run_bind (a : Doing ε σ α) (k : α → Doing ε σ β) (s : σ) :
    (a >>= k).run.run s =
      match a.run.run s with
      | (.ok x, t) => (k x).run.run t
      | (.error e, t) => (.error e, t) := by
  unfold ExceptT.run StateT.run
  simp only [bind, ExceptT.bind, ExceptT.mk, StateT.bind, ExceptT.bindCont]
  cases a s with
  | mk r t => cases r <;> rfl

namespace Follows

variable {o : Overlay σ}

/-- A value is the same value behind others, up to what it refers to. -/
theorem pure {f : α → β} (x : α) :
    Follows o f (Pure.pure x : Doing ε σ α) (Pure.pure (f x)) where
  result _ := rfl
  keeps s := o.refl s

/-- A failure is the same failure behind others. -/
theorem throw {f : α → β} (e : ε) :
    Follows o f (throwThe ε e : Doing ε σ α) (throwThe ε e) where
  result _ := rfl
  keeps s := o.refl s

/-- What is told without a look at the state. -/
theorem lift {f : α → β} {x : Except ε α} {y : Except ε β} (h : y = x.map f) :
    Follows o f (liftM x : Doing ε σ α) (liftM y) where
  result s := by
    subst h
    rfl
  keeps s := o.refl s

/-- One computation after another. -/
theorem bind {f : α → β} {g : γ → δ} {a : Doing ε σ α} {b : Doing ε σ β} {k : α → Doing ε σ γ}
    {k' : β → Doing ε σ δ} (h : Follows o f a b) (hk : ∀ x, Follows o g (k x) (k' (f x))) :
    Follows o g (a >>= k) (b >>= k') where
  result s := by
    rw [run_bind, run_bind, h.result s]
    cases a.run.run s with
    | mk r t =>
      cases r with
      | error e => rfl
      | ok x => exact (hk x).result t
  keeps s := by
    rw [run_bind]
    -- a computation that fails keeps what it has kept so far
    have hkeeps := h.keeps s
    cases hrun : a.run.run s with
    | mk r t =>
      rw [hrun] at hkeeps
      cases r with
      | error e => exact hkeeps
      | ok x => exact o.trans hkeeps ((hk x).keeps t)

/-- The same is done for every item of a list. -/
theorem mapM {f : α → β} {a : γ → Doing ε σ α} {b : γ → Doing ε σ β}
    (h : ∀ c, Follows o f (a c) (b c)) (cs : List γ) :
    Follows o (List.map f) (cs.mapM a) (cs.mapM b) := by
  induction cs with
  | nil =>
    rw [List.mapM_nil, List.mapM_nil]
    exact Follows.pure []
  | cons c cs ih =>
    rw [List.mapM_cons, List.mapM_cons]
    refine (h c).bind fun x => ?_
    exact ih.bind fun xs => Follows.pure (x :: xs)

end Follows

end JavaFragments
