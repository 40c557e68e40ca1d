import JavaFragments.Kind
import JavaFragments.Number.FloatText
import JavaFragments.Number.Numeral

/-! # Values given by the caller

The caller may assign a value of any type to an option or to a part of a record, and the
value is refused only where it does not do what is asked of it.  A `Value` is a null, a
truth value, a number, a text, a list of values or a kind.

`describe` is the form of a value in messages and `text` its form in generated text;
`truth` is whether it counts as true, and `same` the equality under which truth values and
numbers are compared by their numeric value:

* `same_self`   every value is equal to itself -/

namespace JavaFragments

open Number

/-- A value of any of the types that a caller can give. -/
inductive Value
  | null
  | bool (b : Bool)
  | int (n : Int)
  | float (x : Binary64)
  | str (s : String)
  | list (items : List Value)
  | kind (k : Kind)
deriving Inhabited

/-- The types of values. -/
inductive ValueType
  | null
  | bool
  | int
  | float
  | str
  | list
  | kind
deriving DecidableEq, Repr

/-- The word for a type in messages. -/
def ValueType.word : ValueType → String
  | null => "NoneType"
  | bool => "bool"
  | int => "int"
  | float => "float"
  | str => "str"
  | list => "list"
  | kind => "VarType"

namespace Value

/-- The type of a value. -/
def type : Value → ValueType
  | null => .null
  | bool _ => .bool
  | int _ => .int
  | float _ => .float
  | str _ => .str
  | list _ => .list
  | kind _ => .kind

mutual
/-- Form of a value in messages. -/
def describe : Value → Except TooLong String
  | null => .ok "None"
  | bool b => .ok (if b then "True" else "False")
  | int n => writeInt n
  | float x => .ok x.text
  | str s => .ok (Text.quoted s)
  | list items => do .ok ("[" ++ String.intercalate ", " (← describeAll items) ++ "]")
  | kind k => .ok s!"<VarType.{k.constant}: '{k.word}'>"

/-- Forms of the items of a list. -/
def describeAll : List Value → Except TooLong (List String)
  | [] => .ok []
  | v :: vs => do
    let s ← describe v
    .ok (s :: (← describeAll vs))
end

/-- Form of a value in generated text: a text stands for itself. -/
def text : Value → Except TooLong String
  | str s => .ok s
  | kind k => .ok s!"VarType.{k.constant}"
  | v => v.describe

/-- Whether a value counts as true: all do but null, zero, and what is empty. -/
def truth : Value → Bool
  | null => false
  | bool b => b
  | int n => n ≠ 0
  | float x => !x.eq .zero
  | str s => s ≠ ""
  | list items => !items.isEmpty
  | kind _ => true

/-- The numeric value of a truth value or finite number, in units of 2⁻¹⁰⁷⁴. -/
def units? : Value → Option Int
  | bool b => some (if b then Magnitude.unitsPerOne else 0)
  | int n => some (n * Magnitude.unitsPerOne)
  | float x => x.units?
  | _ => none

mutual
/-- Whether two values are equal; truth values and numbers are compared as numbers, and what
    is no number by its payload. -/
def same : Value → Value → Bool
  | null, null => true
  | str s, str t => s == t
  | kind a, kind b => a == b
  | list xs, list ys => sameAll xs ys
  | float x, float y => x.same y
  | a, b =>
    match a.units?, b.units? with
    | some m, some n => m == n
    | _, _ => false

/-- Whether two lists of values are equal item by item. -/
def sameAll : List Value → List Value → Bool
  | [], [] => true
  | x :: xs, y :: ys => same x y && sameAll xs ys
  | _, _ => false
end

/-- The kind that a value is or names. -/
def toKind? : Value → Option Kind
  | kind k => some k
  | str s => Kind.ofWord? s
  | _ => none

/-- A text, or null if there is none. -/
def ofText? (s? : Option String) : Value := s?.elim null str

/-- A text is its own text. -/
@[simp] theorem text_str (s : String) : (str s).text = .ok s := rfl

/-- A truth value is its own truth. -/
@[simp] theorem truth_bool (b : Bool) : (bool b).truth = b := rfl

mutual
/-- Every value is equal to itself. -/
theorem same_self : (v : Value) → v.same v = true
  | null => by simp [same]
  | bool b => by simp only [same, units?, beq_self_eq_true]
  | int n => by simp only [same, units?, beq_self_eq_true]
  | float x => by simp [same]
  | str s => by simp [same]
  | list items => by simp [same, sameAll_self items]
  | kind k => by simp [same]

/-- Every list of values is equal to itself. -/
private theorem sameAll_self : (vs : List Value) → sameAll vs vs = true
  | [] => by simp [sameAll]
  | v :: vs => by simp [sameAll, same_self v, sameAll_self vs]
end

end Value

end JavaFragments
