import JavaFragments.Value.Misuse

/-! # Values as numbers

`whole` reads the bound of a range, which must be a whole number, and `next` adds one to a
value that is counted up.  Truth values count as zero and one. -/

namespace JavaFragments

open Number

namespace Value

/-- The whole number that a bound of a range is.  A text is none even if it is a numeral. -/
def whole (bound : Bound) : Value → Except Misuse Int
  | bool b => .ok (if b then 1 else 0)
  | int n => .ok n
  | float (.nan _) => .error .undefinedBound
  | float (.signed negative m) =>
    if !m.isFinite then .error .infiniteBound
    else if m.units % Magnitude.unitsPerOne ≠ 0 then .error (.notWhole bound)
    else
      let n : Int := m.units / Magnitude.unitsPerOne
      .ok (if negative then -n else n)
  | str s =>
    match readInt .ten s with
    | .ok _ => .error (.notWhole bound)
    | .error cause => .error (.notANumeral cause)
  | v => .error (.notANumber v.type)

/-- The value after one is added to it. -/
def next (i : Increment) : Value → Except Misuse Value
  | bool b => .ok (.int (if b then 2 else 1))
  | int n => .ok (.int (n + 1))
  | float x => .ok (.float (x.add .one))
  | str _ => .error (.notJoinable .str)
  | list _ => .error (if i = .inPlace then .notIterable .int else .notJoinable .list)
  | v => .error (.notAddable i v.type)

/-- An integer is a whole number. -/
@[simp] theorem whole_int (bound : Bound) (n : Int) : (int n).whole bound = .ok n := rfl

/-- An integer has a next one. -/
@[simp] theorem next_int (i : Increment) (n : Int) : (int n).next i = .ok (.int (n + 1)) := rfl

end Value

end JavaFragments
