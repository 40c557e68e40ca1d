import JavaFragments.Proofs.Effects.FailsFirst

/-! # What comes of computations

A computation that is done on a state with a property `Ensures` another property of what comes
of it and of the state that it leaves, as long as it does not fail.  Nothing is said of a failure
or of the state after it:

* `Ensures.bind`   a computation after another
* `Ensures.last`   where it is only the last one that matters
* `Keeps.ensures`  what is seen of the state is seen after the computation as well -/

namespace JavaFragments

variable {σ τ ε α β : Type} {P : σ → Prop} {Q : α → σ → Prop}

/-- What comes of a computation on a state with a property, and the state after it. -/
def Ensures (P : σ → Prop) (a : Doing ε σ α) (Q : α → σ → Prop) : Prop :=
  ∀ s x t, P s → a.run.run s = (.ok x, t) → Q x t

/-- What is seen of the state is seen after a computation that keeps it. -/
theorem Keeps.ensures {see : σ → τ} {a : Doing ε σ α} (h : Keeps see a) (y : τ) :
    Ensures (see · = y) a fun _ t => see t = y := by
  intro s x t hs hrun
  have hkept := h s
  rw [hrun] at hkept
  exact hkept.trans hs

namespace Ensures

/-- A value comes of nothing with the state as it is. -/
theorem pure {x : α} (h : ∀ s, P s → Q x s) : Ensures P (Pure.pure x : Doing ε σ α) Q := by
  intro s y t hs hrun
  obtain ⟨hx, rfl⟩ := Prod.mk.inj hrun
  obtain rfl := Except.ok.inj hx
  exact h s hs

/-- What is told without a look at the state, before something else. -/
theorem lift_bind {x : Except ε β} {k : β → Doing ε σ α} (h : ∀ b, x = .ok b → Ensures P (k b) Q) :
    Ensures P (liftM x >>= k) Q := by
  cases x with
  | error e => exact fun _ _ _ _ hrun => nomatch hrun
  | ok b => exact h b rfl

/-- What comes of the first computation is what the second one starts with. -/
theorem bind {a : Doing ε σ β} {k : β → Doing ε σ α} {R : β → σ → Prop} (h : Ensures P a R)
    (hk : ∀ b, Ensures (R b) (k b) Q) : Ensures P (a >>= k) Q := by
  intro s x t hs
  apply run_bind_cases (motive := fun p => p = (.ok x, t) → Q x t)
  · exact fun _ _ _ hfail => nomatch hfail
  · exact fun b u hrun => hk b u x t (h s b u hs hrun)

/-- What comes of a computation has the property, with whatever state after it. -/
theorem of_fst {a : Doing ε σ α} (h : Ensures P a Q) {s : σ} {x : α} (hs : P s)
    (hx : (a.run.run s).1 = .ok x) : Q x (a.run.run s).2 :=
  h s x _ hs (Prod.ext hx rfl)

/-- A computation of which the last part alone decides. -/
theorem last {a : Doing ε σ β} {k : β → Doing ε σ α}
    (hk : ∀ b, Ensures (fun _ => True) (k b) Q) : Ensures P (a >>= k) Q :=
  bind (fun _ _ _ _ _ => trivial) hk

end Ensures

end JavaFragments
