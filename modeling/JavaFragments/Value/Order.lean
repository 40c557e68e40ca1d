import JavaFragments.Value.Misuse

/-! # Order of values

Truth values and numbers are ordered by their numeric value, texts by their characters,
and lists by the first items that differ or else by their lengths.  Other values have no
order, and nothing is less or greater than `nan`.

* `holds_int`     a comparison of integers never fails
* `larger_int`    the larger of two integers -/

namespace JavaFragments

open Number

namespace Value

/-- Where a number is among all numbers. -/
inductive Place
  /-- At no place, as `nan`. -/
  | nowhere
  /-- Below all finite numbers. -/
  | below
  /-- At a number of units of 2⁻¹⁰⁷⁴. -/
  | finite (units : Int)
  /-- Above all finite numbers. -/
  | above

/-- The order of two places. -/
def Place.order? : Place → Place → Option Ordering
  | nowhere, _ | _, nowhere => none
  | finite m, finite n => some (compare m n)
  | below, below | above, above => some .eq
  | below, _ | _, above => some .lt
  | above, _ | _, below => some .gt

/-- The place of a truth value or number. -/
def place? : Value → Option Place
  | float (.nan _) => some .nowhere
  | float (.signed negative m) =>
    if m.isFinite then some (.finite (if negative then -(m.units : Int) else m.units))
    else some (if negative then .below else .above)
  | v => v.units?.map .finite

mutual
/-- The order of two values, none if there is none because of `nan`; the failure holds the
    types of two values that cannot be compared. -/
def order? : Value → Value → Except (ValueType × ValueType) (Option Ordering)
  | int m, int n => .ok (some (compare m n))
  | float x, float y => .ok (x.order? y)
  | str s, str t => .ok (some (compare s t))
  | list xs, list ys => orderAll? xs ys
  | a, b =>
    match a.place?, b.place? with
    | some p, some q => .ok (p.order? q)
    | _, _ => .error (a.type, b.type)

/-- The order of two lists of values: that of the first items that differ, or else of their
    lengths. -/
def orderAll? : List Value → List Value → Except (ValueType × ValueType) (Option Ordering)
  | x :: xs, y :: ys => if x.same y then orderAll? xs ys else order? x y
  | [], ys => .ok (some (if ys.isEmpty then .eq else .lt))
  | _, [] => .ok (some .gt)
end

end Value

/-- Whether a comparison holds of two things in this order. -/
def Comparison.accepts : Comparison → Option Ordering → Bool
  | less, o => o == some .lt
  | atMost, o => o == some .lt || o == some .eq
  | greater, o => o == some .gt
  | atLeast, o => o == some .gt || o == some .eq

namespace Comparison

/-- One integer is less than another. -/
theorem accepts_less_compare (m n : Int) :
    less.accepts (some (compare m n)) = decide (m < n) := by
  simp only [accepts, compare, compareOfLessAndEq]
  by_cases h : m < n
  · simp [h]
  · by_cases h' : m = n <;> simp [h, h']

/-- One integer is at most another. -/
theorem accepts_atMost_compare (m n : Int) :
    atMost.accepts (some (compare m n)) = decide (m ≤ n) := by
  simp only [accepts, compare, compareOfLessAndEq]
  by_cases h : m < n
  · simp [h, Int.le_of_lt h]
  · by_cases h' : m = n
    · simp [h']
    · have : ¬ m ≤ n := by omega
      simp [h, h', this]

/-- One integer is greater than another. -/
private theorem accepts_greater_compare (m n : Int) :
    greater.accepts (some (compare m n)) = decide (n < m) := by
  simp only [accepts, compare, compareOfLessAndEq]
  by_cases h : m < n
  · have : ¬ n < m := by omega
    simp [h, this]
  · by_cases h' : m = n
    · simp [h']
    · have : n < m := by omega
      simp [h, h', this]

/-- One integer is at least another. -/
theorem accepts_atLeast_compare (m n : Int) :
    atLeast.accepts (some (compare m n)) = decide (n ≤ m) := by
  simp only [accepts, compare, compareOfLessAndEq]
  by_cases h : m < n
  · have : ¬ n ≤ m := by omega
    simp [h, this]
  · by_cases h' : m = n
    · simp [h']
    · have : n ≤ m := by omega
      simp [h, h', this]

/-- One floating-point number is at most another. -/
theorem accepts_atMost_order (x y : Binary64) :
    atMost.accepts (x.order? y) = x.le y := by
  unfold Binary64.order? Binary64.le
  cases x.rank? <;> cases y.rank? <;> simp only [accepts_atMost_compare] <;> rfl

/-- One floating-point number is less than another. -/
theorem accepts_less_order (x y : Binary64) :
    less.accepts (x.order? y) = x.lt y := by
  unfold Binary64.order? Binary64.lt
  cases x.rank? <;> cases y.rank? <;> simp only [accepts_less_compare] <;> rfl

end Comparison

namespace Value

/-- Whether a comparison holds of two values. -/
def holds (c : Comparison) (a b : Value) : Except Misuse Bool :=
  match order? a b with
  | .ok o => .ok (c.accepts o)
  | .error (s, t) => .error (.unordered c s t)

/-- The larger of two values, the first if they are equal. -/
def larger (a b : Value) : Except Misuse Value := do
  .ok (if ← holds .greater b a then b else a)

/-- A comparison of integers is that of their order. -/
theorem holds_int (c : Comparison) (m n : Int) :
    holds c (int m) (int n) = .ok (c.accepts (some (compare m n))) := by
  simp [holds, order?]

/-- A comparison of floating-point numbers is that of their order. -/
theorem holds_float (c : Comparison) (x y : Binary64) :
    holds c (float x) (float y) = .ok (c.accepts (x.order? y)) := by
  simp [holds, order?]

/-- The larger of two integers. -/
theorem larger_int (m n : Int) : larger (int m) (int n) = .ok (int (max m n)) := by
  simp only [larger, holds_int, Comparison.accepts_greater_compare, bind, Except.bind]
  by_cases h : m < n
  · simp [h, Int.max_eq_right (Int.le_of_lt h)]
  · simp [h, Int.max_eq_left (Int.not_lt.1 h)]

end Value

end JavaFragments
