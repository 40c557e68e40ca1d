import JavaFragments.Fragment.Statement

/-! # Draws that always succeed

A draw `Succeeds` if something comes of it whatever a source answers, as long as the source
answers at all.  `Gives` says in addition what may come of it.  What is drawn from a range may
be every integer in it, and no other one:

* `Gives.bind`      a draw after another
* `gives_between`   what is drawn from a range
* `result_between_answering`, `result_upTo_answering`   what may be drawn from it -/

namespace JavaFragments.Fragment

open Number JavaFragments.Random

variable {α β : Type}

/-- Something comes of a draw from every source that can answer. -/
def Succeeds (d : Draw α) : Prop := ∀ s : Source, s.fault? = none → ∃ a, (d.result s).1 = .ok a

/-- Something that has a property comes of a draw, and the source can answer again. -/
def Gives (d : Draw α) (Q : α → Prop) : Prop :=
  ∀ s : Source, s.fault? = none → ∃ a t, d.result s = (.ok a, t) ∧ t.fault? = none ∧ Q a

namespace Gives

variable {d : Draw α} {Q : α → Prop}

/-- A draw with a property succeeds. -/
theorem succeeds (h : Gives d Q) : Succeeds d := by
  intro s hs
  obtain ⟨a, t, hrun, -, -⟩ := h s hs
  exact ⟨a, congrArg Prod.fst hrun⟩

/-- A value has whatever property it has. -/
theorem pure {a : α} (h : Q a) : Gives (Pure.pure a : Draw α) Q := fun s hs => ⟨a, s, rfl, hs, h⟩

/-- What succeeds without a look at the source. -/
theorem lift {x : Except Failure α} {a : α} (hx : x = .ok a) (h : Q a) :
    Gives (liftM x : Draw α) Q := by
  subst hx
  exact fun s hs => ⟨a, s, rfl, hs, h⟩

/-- A draw after another one gives what the second gives. -/
theorem bind {k : α → Draw β} {R : β → Prop} (h : Gives d Q) (hk : ∀ a, Q a → Gives (k a) R) :
    Gives (d >>= k) R := by
  intro s hs
  obtain ⟨a, t, hrun, ht, ha⟩ := h s hs
  rw [Draw.result_bind, hrun]
  exact hk a ha t ht

/-- What is given may be told in a weaker way. -/
theorem mono {R : α → Prop} (h : Gives d Q) (himp : ∀ a, Q a → R a) : Gives d R := by
  intro s hs
  obtain ⟨a, t, hrun, ht, ha⟩ := h s hs
  exact ⟨a, t, hrun, ht, himp a ha⟩

end Gives

/-! ## Ranges -/

/-- A number below a bound is below it. -/
theorem gives_below {n : Nat} (h : 0 < n) : Gives (Draw.below n) (· < n) := fun s hs =>
  ⟨_, _, Draw.result_below n hs, (Source.fault?_below n s).trans hs, s.below_lt h⟩

/-- A number from zero to one can always be drawn. -/
theorem gives_random : Gives Draw.random fun _ => True := fun s hs =>
  ⟨_, _, Draw.result_random hs, (Source.fault?_random s).trans hs, trivial⟩

/-- An integer of a range lies in the range. -/
theorem gives_between {low high : Int} (h : low < high) :
    Gives (Draw.between low high) fun n => low ≤ n ∧ n < high := by
  intro s hs
  refine ⟨_, _, Draw.result_between h hs, (Source.fault?_below _ s).trans hs, ?_⟩
  have hlt := s.below_lt (show 0 < (high - low).toNat by omega)
  omega

/-- A number below a positive bound is below it. -/
theorem gives_upTo {high : Int} (h : 0 < high) :
    Gives (Draw.upTo high) fun n => (n : Int) < high := by
  unfold Draw.upTo
  rw [if_pos h]
  exact (gives_below (by omega)).mono fun n hn => by omega

/-- An item of a list can always be drawn. -/
theorem gives_oneOf (first : α) (rest : List α) :
    Gives (Draw.oneOf first rest) fun _ => True :=
  (gives_below (Nat.succ_pos _)).bind fun _ _ => .pure trivial

/-! ## What may be drawn

A script answers with the number at its position, as long as that is below the bound. -/

/-- A source whose next answer is a number, where that is below the bound. -/
def Answering (n : Nat) (s : Source) : Prop :=
  s.fault? = none ∧ ∀ bound, n < bound → (s.below bound).1 = n

/-- A script of one number answers with it. -/
theorem answering_ofScript (n : Nat) : Answering n (.ofScript [n]) :=
  ⟨rfl, fun _ h => Nat.mod_eq_of_lt h⟩

/-- After another answer a script of two numbers answers with the second. -/
theorem answering_random (m n : Nat) : Answering n (Source.ofScript [m, n]).random.2 :=
  ⟨rfl, fun _ h => Nat.mod_eq_of_lt h⟩

/-- Every integer in a range may be drawn from it. -/
theorem result_between_answering {low high n : Int} {s : Source} (hlow : low ≤ n) (hhigh : n < high)
    (hs : Answering (n - low).toNat s) :
    ((Draw.between low high).result s).1 = .ok n := by
  have hsum : low + ((n - low).toNat : Int) = n := by omega
  rw [Draw.result_between (by omega) hs.1, hs.2 _ (by omega), hsum]

/-- Every number below a bound may be drawn. -/
theorem result_upTo_answering {n : Nat} {high : Int} {s : Source} (h : (n : Int) < high)
    (hs : Answering n s) : ((Draw.upTo high).result s).1 = .ok n := by
  unfold Draw.upTo
  rw [if_pos (by omega), Draw.result_below _ hs.1, hs.2 _ (by omega)]

/-- What is told without a look at the source. -/
theorem result_lift_fst (x : Except Failure α) (s : Source) :
    ((liftM x : Draw α).result s).1 = x := rfl

/-- What comes of a draw after something was drawn at first. -/
theorem result_bind_fst {d : Draw α} {k : α → Draw β} {a : α} {s : Source}
    (h : (d.result s).1 = .ok a) :
    ((d >>= k).result s).1 = ((k a).result (d.result s).2).1 := by
  rw [Draw.result_bind]
  cases hd : d.result s with
  | mk r t =>
    obtain rfl : r = .ok a := by rwa [hd] at h
    rfl

end JavaFragments.Fragment
