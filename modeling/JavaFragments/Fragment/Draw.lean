import JavaFragments.Fragment.Failure
import JavaFragments.Random.Source
import JavaFragments.Value.Arithmetic

/-! # Draws

A `Draw` uses up answers of a random source and may fail, as it does where the source
cannot answer.  The draws of this module are
evenly spread over a range of integers or over the items of a list; a range without any
integer is refused before anything is drawn.  The bounds of a range may be given as values,
which must be whole numbers. -/

namespace JavaFragments.Fragment

open Number JavaFragments.Random

/-- Something drawn from a random source. -/
abbrev Draw (α : Type) := ExceptT Failure (StateM Source) α

/-- The failure for a range without integers.  A bound that is too long to be shown is the
    failure instead. -/
def noIntegers (low high : Int) : Failure :=
  match numeral low, numeral high, numeral (high - low) with
  | .ok a, .ok b, .ok width => .emptyRange a b width
  | .error f, _, _ => f
  | _, .error f, _ => f
  | _, _, .error f => f

namespace Draw

/-- An answer of the source, if it can answer. -/
def ask {α : Type} (answer : Source → α × Source) : Draw α := ExceptT.mk fun s =>
  match s.fault? with
  | none => let (a, s) := answer s; (.ok a, s)
  | some m => (.error (.misuse m), s)

/-- A number below `n`. -/
def below (n : Nat) : Draw Nat := ask (Source.below n)

/-- A floating-point number from zero to one. -/
def random : Draw Binary64 := ask Source.random

/-- An integer from `low` on and below `high`. -/
def between (low high : Int) : Draw Int :=
  if low < high then do return low + (← below (high - low).toNat)
  else throw (noIntegers low high)

/-- An integer from zero on and below `high`. -/
def upTo (high : Int) : Draw Nat :=
  if 0 < high then below high.toNat else throw .emptyRangeBelow

/-- An integer from zero on and below a bound that is given as a value. -/
def upToValue (high : Value) : Draw Nat := do upTo (← orMisuse (high.whole .low))

/-- An integer within bounds that are given as values.  Without an upper bound the lower one
    takes its place, and zero that of the lower one. -/
def within (low high : Value) : Draw Int := do
  let a ← orMisuse (low.whole .low)
  match high with
  | .null => return (← upTo a)
  | high => between a (← orMisuse (high.whole .high))

/-- One item of a list that starts with `first`. -/
def oneOf {α : Type} (first : α) (rest : List α) : Draw α := do
  let i ← below (rest.length + 1)
  return (first :: rest).getD i first

/-- A whole bound is a bound as it is. -/
@[simp] theorem upToValue_int (n : Int) : upToValue (.int n) = upTo n := rfl

/-- Whole bounds are bounds as they are. -/
@[simp] theorem within_int (a b : Int) : within (.int a) (.int b) = between a b := rfl

/-! ## What comes of a draw -/

/-- What comes of a draw, and the source after it. -/
def result {α : Type} (d : Draw α) (s : Source) : Except Failure α × Source := d.run.run s

/-- What is given is returned without an answer of the source. -/
@[simp] theorem result_pure {α : Type} (a : α) (s : Source) :
    (pure a : Draw α).result s = (.ok a, s) := rfl

/-- What is refused leaves the source as it is. -/
@[simp] theorem result_throw {α : Type} (f : Failure) (s : Source) :
    (throw f : Draw α).result s = (.error f, s) := rfl

/-- What a source answers that can answer. -/
theorem result_ask {α : Type} (answer : Source → α × Source) {s : Source} (h : s.fault? = none) :
    (ask answer).result s = (.ok (answer s).1, (answer s).2) := by
  unfold result ask ExceptT.run StateT.run ExceptT.mk
  simp only [h]

/-- A source that cannot answer stays as it is. -/
theorem result_ask_of_fault {α : Type} (answer : Source → α × Source) {s : Source} {m : Misuse}
    (h : s.fault? = some m) : (ask answer).result s = (.error (.misuse m), s) := by
  unfold result ask ExceptT.run StateT.run ExceptT.mk
  simp only [h]

/-- A source that can answer answers with a number below the bound. -/
theorem result_below (n : Nat) {s : Source} (h : s.fault? = none) :
    (below n).result s = (.ok (s.below n).1, (s.below n).2) := result_ask _ h

/-- A source that can answer answers with a number of the unit interval. -/
theorem result_random {s : Source} (h : s.fault? = none) :
    random.result s = (.ok s.random.1, s.random.2) := result_ask _ h

/-- A draw after another starts from the source that the first one leaves. -/
theorem result_bind {α β : Type} (d : Draw α) (f : α → Draw β) (s : Source) :
    (d >>= f).result s =
      match d.result s with
      | (.ok a, t) => (f a).result t
      | (.error e, t) => (.error e, t) := by
  unfold result ExceptT.run StateT.run
  simp only [bind, ExceptT.bind, ExceptT.mk, StateT.bind, ExceptT.bindCont]
  cases d s with
  | mk r t => cases r <;> rfl

/-- A range with integers in it costs one answer of the source. -/
theorem result_between {low high : Int} (h : low < high) {s : Source} (hs : s.fault? = none) :
    (between low high).result s =
      (.ok (low + (s.below (high - low).toNat).1), (s.below (high - low).toNat).2) := by
  unfold between
  rw [if_pos h, result_bind, result_below _ hs]
  rfl

/-- A range without integers costs nothing. -/
private theorem result_between_of_le {low high : Int} (h : high ≤ low) (s : Source) :
    (between low high).result s = (.error (noIntegers low high), s) := by
  unfold between
  rw [if_neg (by omega)]
  rfl

/-- A drawn integer lies in its range. -/
theorem mem_of_result_between {low high n : Int} {s t : Source}
    (h : (between low high).result s = (.ok n, t)) : low ≤ n ∧ n < high := by
  by_cases hlt : low < high
  · cases hs : s.fault? with
    | some m =>
      rw [between, if_pos hlt, result_bind, below, result_ask_of_fault _ hs] at h
      simp at h
    | none =>
    rw [result_between hlt hs] at h
    simp only [Prod.mk.injEq, Except.ok.injEq] at h
    have hpos : 0 < (high - low).toNat := by omega
    have hbelow := s.below_lt hpos
    omega
  · rw [result_between_of_le (by omega)] at h
    simp at h

end Draw

end JavaFragments.Fragment
