import JavaFragments.Value

/-! # Values as keys

What is kept in a table under a value is found by the key of the value.  Truth values and
numbers of the same numeric value have one key, a list has none:

* `key?_str`   the key of a text is the text
* `key?_bool`  the key of a truth value is that of zero or one
* `key?_list`  a list is no key -/

namespace JavaFragments

open Number

/-- What values are told apart by in a table. -/
inductive Key
  | null
  /-- A finite number, in units of 2⁻¹⁰⁷⁴. -/
  | number (units : Int)
  | infinite (negative : Bool)
  /-- What is no number at all, by its payload. -/
  | undefined (payload : Nat)
  | str (s : String)
  | kind (k : Kind)
deriving DecidableEq

/-- The key of a floating-point number. -/
def Key.ofFloat (x : Binary64) : Key :=
  match x.units?, x with
  | some units, _ => .number units
  | none, .signed negative _ => .infinite negative
  | none, .nan payload => .undefined payload

/-- The key of a value. -/
def Value.key? : Value → Option Key
  | null => some .null
  | bool b => some (.number (if b then Magnitude.unitsPerOne else 0))
  | int n => some (.number (n * Magnitude.unitsPerOne))
  | float x => some (.ofFloat x)
  | str s => some (.str s)
  | list _ => none
  | kind k => some (.kind k)

namespace Value

/-- A text is a key. -/
@[simp] theorem key?_str (s : String) : (str s).key? = some (.str s) := rfl

/-- A list is none. -/
@[simp] theorem key?_list (items : List Value) : (list items).key? = none := rfl

/-- A truth value has the key of zero or one. -/
theorem key?_bool (b : Bool) : (bool b).key? = (int (if b then 1 else 0)).key? := by
  cases b
  · exact congrArg (some ∘ Key.number) (Int.zero_mul _).symm
  · exact congrArg (some ∘ Key.number) (Int.one_mul _).symm

end Value

end JavaFragments
