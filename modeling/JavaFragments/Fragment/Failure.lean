import JavaFragments.Value.Misuse

/-! # Failures of generation -/

namespace JavaFragments.Fragment

open Number

/-- Why something cannot be generated.  Values are described. -/
inductive Failure
  /-- A class name was not allocated. -/
  | unknownClass (value : String)
  /-- A class would be its own ancestor. -/
  | ownAncestor (name through : String)
  /-- A value is no kind that has a Java type. -/
  | noJavaType (value : String)
  /-- A value is no kind that has literals. -/
  | noLiteral (value : String)
  /-- A value is no kind and names none. -/
  | notAKind (value : String)
  /-- No integer lies between two bounds; they and their distance are written out. -/
  | emptyRange (low high width : String)
  /-- No integer lies below a bound. -/
  | emptyRangeBelow
  /-- A number is too long to be written. -/
  | tooLong (e : TooLong)
  /-- An integer is too large to be multiplied with a floating-point number. -/
  | tooLarge
  /-- A value or record does not do what is asked of it. -/
  | misuse (m : Misuse)
deriving DecidableEq

/-- Wording of a failure. -/
def Failure.message : Failure → String
  | unknownClass value => s!"Unknown class {value}: class names must come from next_class_name()"
  | ownAncestor name through => s!"Class {name} is its own ancestor through {through}"
  | noJavaType value => s!"No Java type for {value}"
  | noLiteral value => s!"Cannot generate a value of type {value}"
  | notAKind value => s!"{value} is not a valid VarType"
  | emptyRange low high width => s!"empty range for randrange() ({low}, {high}, {width})"
  | emptyRangeBelow => "empty range for randrange()"
  | tooLong e => e.message
  | tooLarge => "int too large to convert to float"
  | misuse m => m.message

/-- What a value does, unless it does not do. -/
def orMisuse {α : Type} : Except Misuse α → Except Failure α
  | .ok a => .ok a
  | .error m => .error (.misuse m)

/-- The form of a value in generated text. -/
def written (v : Value) : Except Failure String :=
  match v.text with
  | .ok s => .ok s
  | .error e => .error (.tooLong e)

/-- What is there is returned. -/
@[simp] theorem orMisuse_ok {α : Type} (a : α) : orMisuse (.ok a) = .ok a := rfl

/-- A text is written as it is. -/
@[simp] theorem written_str (s : String) : written (.str s) = .ok s := rfl

/-- The decimal numeral of an integer. -/
def numeral (n : Int) : Except Failure String :=
  match writeInt n with
  | .ok s => .ok s
  | .error e => .error (.tooLong e)

/-- Refuses a value, which is described. -/
def refuse {α : Type} (v : Value) (failure : String → Failure) : Except Failure α :=
  match v.describe with
  | .ok s => .error (failure s)
  | .error e => .error (.tooLong e)

end JavaFragments.Fragment
