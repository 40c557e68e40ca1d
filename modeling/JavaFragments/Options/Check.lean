import JavaFragments.Options.Failure
import JavaFragments.Options.Settings
import JavaFragments.Value.Order

/-! # Consistency of options

`Settings.check` refuses settings that contradict each other, with the first contradiction
it meets; a value that cannot be compared is met in the same order.  For options that have
the right types `Options.check_eq_ok_iff` says what is accepted. -/

namespace JavaFragments

open Number

namespace Settings

open Options (Failure)

/-- The form of a value in a refusal. -/
def shown (v : Value) : Except Failure String := v.text.mapError .tooLong

/-- Whether a comparison holds of two values. -/
def holds (c : Comparison) (a b : Value) : Except Failure Bool :=
  (Value.holds c a b).mapError .misuse

/-- Refuses a weight that is no probability. -/
def checkWeight (w : Value) : Except Failure Unit := do
  if ← holds .atMost (.float .zero) w then
    if ← holds .atMost w (.float .one) then return
  .error (.rejected (.weight (← shown w)))

/-- Refuses a lower bound that is not below its upper bound. -/
def checkBounds (s : Settings) (low high : OptionName) : Except Failure Unit := do
  if ← holds .atLeast (s.get low) (s.get high) then
    .error (.rejected (.bounds low high (← shown (s.get low)) (← shown (s.get high))))

/-- Refuses bounds of the length of strings that allow none. -/
def checkLengths (low high : Value) : Except Failure Unit := do
  if ← holds .atMost (.int 1) low then
    if ← holds .atMost low high then return
  .error (.rejected (.lengths (← shown low) (← shown high)))

/-- Refuses a size that is not positive. -/
def checkPositive (s : Settings) (n : OptionName) : Except Failure Unit := do
  if ← holds .less (s.get n) (.int 1) then .error (.rejected (.notPositive n))

/-- Refuses settings that contradict each other. -/
def check (s : Settings) : Except Failure Unit := do
  checkWeight (s.get .tryCatchWeight)
  s.checkBounds .intMin .intMax
  s.checkBounds .longMin .longMax
  checkLengths (s.get .stringMinLength) (s.get .stringMaxLength)
  s.checkPositive .floatScale
  s.checkPositive .varSuffixMax

/-! ## What is accepted -/

/-- Integers are compared as such. -/
theorem holds_int (c : Comparison) (m n : Int) :
    holds c (.int m) (.int n) = .ok (c.accepts (some (compare m n))) := by
  rw [holds, Value.holds_int]
  rfl

/-- Floating-point numbers are compared as such. -/
theorem holds_float (c : Comparison) (x y : Binary64) :
    holds c (.float x) (.float y) = .ok (c.accepts (x.order? y)) := by
  rw [holds, Value.holds_float]
  rfl

/-- A weight must lie between zero and one. -/
theorem checkWeight_float (w : Binary64) :
    checkWeight (.float w) =
      if Binary64.zero.le w ∧ w.le .one then .ok () else .error (.rejected (.weight w.text)) := by
  simp only [checkWeight, holds_float, Comparison.accepts_atMost_order]
  cases Binary64.zero.le w <;> cases w.le .one <;> rfl

/-- Two integers are bounds if the first is below the second. -/
theorem checkBounds_eq_ok_iff {s : Settings} {low high : OptionName} {a b : Int}
    (ha : s.get low = .int a) (hb : s.get high = .int b) :
    s.checkBounds low high = .ok () ↔ a < b := by
  simp only [checkBounds, ha, hb, holds_int, Comparison.accepts_atLeast_compare, bind, Except.bind]
  by_cases h : b ≤ a
  · simp only [h, decide_true, if_true]
    have : ¬ a < b := by omega
    simp only [this, iff_false]
    cases shown (.int a) <;> cases shown (.int b) <;> simp
  · have : a < b := by omega
    simp [h, this, pure, Except.pure]

/-- Two integers are lengths if they are positive and in order. -/
theorem checkLengths_eq_ok_iff (a b : Int) :
    checkLengths (.int a) (.int b) = .ok () ↔ 1 ≤ a ∧ a ≤ b := by
  simp only [checkLengths, holds_int, Comparison.accepts_atMost_compare, bind, Except.bind]
  by_cases h : 1 ≤ a <;> by_cases h' : a ≤ b <;> simp [h, h', pure, Except.pure] <;>
    cases shown (.int a) <;> cases shown (.int b) <;> simp

/-- An integer is a size if it is positive. -/
theorem checkPositive_eq_ok_iff {s : Settings} {n : OptionName} {a : Int}
    (ha : s.get n = .int a) : s.checkPositive n = .ok () ↔ 1 ≤ a := by
  simp only [checkPositive, ha, holds_int, Comparison.accepts_less_compare, bind, Except.bind]
  by_cases h : a < 1
  · have : ¬ 1 ≤ a := by omega
    simp [h, this]
  · have : 1 ≤ a := by omega
    simp [h, this, pure, Except.pure]

end Settings

namespace Options

/-- Refuses options that contradict each other. -/
def check (o : Options) : Except Failure Unit := (Settings.ofOptions o).check

/-- Options are accepted if the weight is a probability, each range holds an integer, and
    lengths and sizes are positive. -/
theorem check_eq_ok_iff (o : Options) :
    o.check = .ok () ↔
      (Binary64.zero.le o.tryCatchWeight ∧ o.tryCatchWeight.le .one) ∧
      o.intMin < o.intMax ∧ o.longMin < o.longMax ∧
      (1 ≤ o.stringMinLength ∧ o.stringMinLength ≤ o.stringMaxLength) ∧
      1 ≤ o.floatScale ∧ 1 ≤ o.varSuffixMax := by
  have andThen : ∀ (a b : Except Failure Unit),
      (do a; b) = .ok () ↔ a = .ok () ∧ b = .ok () := by
    intro a b
    cases a <;> simp [bind, Except.bind]
  unfold check Settings.check
  rw [andThen, andThen, andThen, andThen, andThen]
  refine and_congr ?_ (and_congr ?_ (and_congr ?_ (and_congr ?_ (and_congr ?_ ?_))))
  · show Settings.checkWeight (.float o.tryCatchWeight) = _ ↔ _
    rw [Settings.checkWeight_float]
    split <;> simp_all
  · exact Settings.checkBounds_eq_ok_iff rfl rfl
  · exact Settings.checkBounds_eq_ok_iff rfl rfl
  · exact Settings.checkLengths_eq_ok_iff _ _
  · exact Settings.checkPositive_eq_ok_iff rfl
  · exact Settings.checkPositive_eq_ok_iff rfl

end Options

end JavaFragments
