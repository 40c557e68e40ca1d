import JavaFragments.Proofs.Effects.Result
import JavaFragments.Proofs.Replay.Overlay

/-! # Failures before effects

Something that is done with a state may have done a part of it when it fails.  `Leaves` says
what is left by a failure of a certain kind, and `FailsFirst` that it is the state as it was.
A computation fails first if it changes nothing up to the last part that may fail so:

* `Keeps.bind_failsFirst`   what comes first changes nothing
* `Leaves.bind_avoids`      what comes then does not fail so
* `Keeps.bind_leaves`       what comes first neither changes anything nor fails so
* `Keeps.bind`, `Avoids.bind`   the same of all parts
* `Keeps.bind_pure`, `Avoids.bind_pure`, `Leaves.bind_pure`   something is made of the result -/

namespace JavaFragments

variable {σ τ ε α β : Type}

/-- What is seen of the state stays as it is. -/
def Keeps (see : σ → τ) (a : Doing ε σ α) : Prop := ∀ s, see (a.run.run s).2 = see s

/-- A computation does not fail in some way. -/
def Avoids (P : ε → Prop) (a : Doing ε σ α) : Prop := ∀ s, Spares P (a.run.run s).1

/-- What a computation leaves where it fails in some way. -/
def Leaves (P : ε → Prop) (left : σ → σ) (a : Doing ε σ α) : Prop :=
  ∀ s e, (a.run.run s).1 = .error e → P e → (a.run.run s).2 = left s

/-- A computation that fails in some way has changed nothing. -/
abbrev FailsFirst (P : ε → Prop) (a : Doing ε σ α) : Prop := Leaves P id a

variable {P : ε → Prop} {see : σ → τ} {left : σ → σ}

/-- What comes of a computation and of another after it: the failure of the first, or what comes
    of the second from the state that the first one leaves. -/
theorem run_bind_cases {motive : Except ε β × σ → Prop} {a : Doing ε σ α} {k : α → Doing ε σ β}
    {s : σ} (error : ∀ e t, a.run.run s = (.error e, t) → motive (.error e, t))
    (ok : ∀ x t, a.run.run s = (.ok x, t) → motive ((k x).run.run t)) :
    motive ((a >>= k).run.run s) := by
  rw [run_bind]
  cases hrun : a.run.run s with
  | mk r t =>
    cases r with
    | error e => exact error e t hrun
    | ok x => exact ok x t hrun

/-! ## What changes nothing -/

namespace Keeps

/-- A value changes nothing. -/
theorem pure (x : α) : Keeps see (Pure.pure x : Doing ε σ α) := fun _ => rfl

/-- A failure changes nothing. -/
theorem throw (e : ε) : Keeps see (throwThe ε e : Doing ε σ α) := fun _ => rfl

/-- What is told without a look at the state. -/
theorem lift (x : Except ε α) : Keeps see (liftM x : Doing ε σ α) := fun _ => rfl

/-- What is seen stays as it is if both computations leave it. -/
theorem bind {a : Doing ε σ α} {k : α → Doing ε σ β} (h : Keeps see a)
    (hk : ∀ x, Keeps see (k x)) : Keeps see (a >>= k) := by
  intro s
  have hfirst := h s
  apply run_bind_cases (motive := fun p => see p.2 = see s)
  · intro e t hrun
    rwa [hrun] at hfirst
  · intro x t hrun
    rw [hrun] at hfirst
    exact (hk x t).trans hfirst

/-- What is made of a result changes nothing more. -/
theorem bind_pure {a : Doing ε σ α} {f : α → β} (h : Keeps see a) :
    Keeps see (a >>= fun x => Pure.pure (f x)) :=
  h.bind fun x => Keeps.pure (f x)

/-- The same is done for every item of a list. -/
theorem mapM {f : α → Doing ε σ β} (h : ∀ a, Keeps see (f a)) (as : List α) :
    Keeps see (as.mapM f) := by
  induction as with
  | nil =>
    rw [List.mapM_nil]
    exact Keeps.pure []
  | cons a as ih =>
    rw [List.mapM_cons]
    refine (h a).bind fun b => ?_
    exact ih.bind fun bs => Keeps.pure (b :: bs)

/-- What changes nothing changes nothing before it fails. -/
theorem failsFirst {a : Doing ε σ α} (h : Keeps id a) : FailsFirst P a := fun s _ _ _ => h s

/-- What is done after a computation that changes nothing fails as if it were done at once. -/
theorem bind_failsFirst {a : Doing ε σ α} {k : α → Doing ε σ β} (h : Keeps id a)
    (hk : ∀ x, FailsFirst P (k x)) : FailsFirst P (a >>= k) := by
  intro s e
  have hfirst := h s
  apply run_bind_cases (motive := fun p => p.1 = .error e → P e → p.2 = s)
  · intro e' t hrun _ _
    rwa [hrun] at hfirst
  · -- the second one starts from the state that the first one started from
    intro x t hrun he hP
    rw [hrun] at hfirst
    exact (hk x t e he hP).trans hfirst

/-- What is done after a computation that neither changes anything nor fails. -/
theorem bind_leaves {a : Doing ε σ α} {k : α → Doing ε σ β} (h : Keeps id a) (ha : Avoids P a)
    (hk : ∀ x, Leaves P left (k x)) : Leaves P left (a >>= k) := by
  intro s e
  have hfirst := h s
  apply run_bind_cases (motive := fun p => p.1 = .error e → P e → p.2 = left s)
  · intro e' t hrun he hP
    obtain rfl : e' = e := Except.error.inj he
    exact absurd hP (ha s e' (congrArg Prod.fst hrun))
  · intro x t hrun he hP
    obtain rfl : t = s := by rwa [hrun] at hfirst
    exact hk x t e he hP

end Keeps

/-! ## What does not fail -/

namespace Avoids

/-- A value is no failure. -/
theorem pure (x : α) : Avoids P (Pure.pure x : Doing ε σ α) := fun _ => .ok x

/-- A result that is no such failure. -/
theorem lift {x : Except ε α} (h : Spares P x) : Avoids P (liftM x : Doing ε σ α) := fun _ => h

/-- One computation after another does not fail so if neither does. -/
theorem bind {a : Doing ε σ α} {k : α → Doing ε σ β} (h : Avoids P a)
    (hk : ∀ x, Avoids P (k x)) : Avoids P (a >>= k) := by
  intro s
  have hfirst := h s
  apply run_bind_cases (motive := fun p => Spares P p.1)
  · intro e t hrun
    rw [hrun] at hfirst
    exact .error (hfirst e rfl)
  · intro x t _
    exact hk x t

/-- What is made of a result does not fail. -/
theorem bind_pure {a : Doing ε σ α} {f : α → β} (h : Avoids P a) :
    Avoids P (a >>= fun x => Pure.pure (f x)) :=
  h.bind fun x => Avoids.pure (f x)

/-- There is nothing to say about a failure that does not happen. -/
theorem leaves {a : Doing ε σ α} (h : Avoids P a) : Leaves P left a :=
  fun s e he hP => absurd hP (h s e he)

end Avoids

namespace Leaves

/-- What is done with something that is told without a look at the state. -/
theorem lift_bind {x : Except ε α} {k : α → Doing ε σ β}
    (h : ∀ a, x = .ok a → FailsFirst P (k a)) : FailsFirst P (liftM x >>= k) := by
  cases x with
  | error e => exact fun _ _ _ _ => rfl -- nothing was done yet
  | ok a => exact h a rfl

/-- A failure leaves what it does at first if there is none after that. -/
theorem bind_avoids {a : Doing ε σ α} {k : α → Doing ε σ β} (h : Leaves P left a)
    (hk : ∀ x, Avoids P (k x)) : Leaves P left (a >>= k) := by
  intro s e
  have hfirst := h s
  apply run_bind_cases (motive := fun p => p.1 = .error e → P e → p.2 = left s)
  · intro e' t hrun he hP
    obtain rfl : e' = e := Except.error.inj he
    rw [hrun] at hfirst
    exact hfirst e' rfl hP
  · intro x t _ he hP
    exact absurd hP (hk x t e he)

/-- What is made of a result does not fail. -/
theorem bind_pure {a : Doing ε σ α} {f : α → β} (h : Leaves P left a) :
    Leaves P left (a >>= fun x => Pure.pure (f x)) :=
  h.bind_avoids fun x => Avoids.pure (f x)

end Leaves

end JavaFragments
