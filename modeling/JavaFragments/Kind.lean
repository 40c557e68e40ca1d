/-! # Kinds of Java values

The types that fragments are generated for: six kinds of values, and `void`, which is
only legal as the return type of a method. -/

namespace JavaFragments

/-- A kind of value, or `void`. -/
inductive Kind
  | int
  | long
  | float
  | bool
  | char
  | string
  | void
deriving DecidableEq, Repr, Inhabited

namespace Kind

/-- All kinds, `void` last. -/
def all : List Kind := [int, long, float, bool, char, string, void]

/-- The kinds of values. -/
def primitives : List Kind := [int, long, float, bool, char, string]

/-- The lower case word for a kind. -/
def word : Kind → String
  | int => "int"
  | long => "long"
  | float => "float"
  | bool => "bool"
  | char => "char"
  | string => "string"
  | void => "void"

/-- The constant that names a kind. -/
def constant : Kind → String
  | int => "INT"
  | long => "LONG"
  | float => "FLOAT"
  | bool => "BOOL"
  | char => "CHAR"
  | string => "STRING"
  | void => "VOID"

/-- The spelling of a kind as a type of the Java language. -/
def javaName : Kind → String
  | int => "int"
  | long => "long"
  | float => "float"
  | bool => "boolean"
  | char => "char"
  | string => "String"
  | void => "void"

/-- The kind with the given word. -/
def ofWord? (s : String) : Option Kind := all.find? fun k => k.word = s

/-- The kind named by the given constant. -/
def ofConstant? (s : String) : Option Kind := all.find? fun k => k.constant = s

/-- How often `void` counts among the candidates for a return type that may be `void`. -/
def voidWeight : Nat := 2

/-- The kinds among which a random kind is chosen. -/
def candidates (allowVoid : Bool) : List Kind :=
  primitives ++ if allowVoid then List.replicate voidWeight void else []

/-- Every kind is listed. -/
theorem mem_all (k : Kind) : k ∈ all := by cases k <;> decide

/-- A kind is found by its word. -/
theorem ofWord?_word (k : Kind) : ofWord? k.word = some k := by cases k <;> decide

/-- A kind is found by its constant. -/
theorem ofConstant?_constant (k : Kind) : ofConstant? k.constant = some k := by cases k <;> decide

/-- Different kinds have different names in Java. -/
theorem javaName_injective {a b : Kind} (h : a.javaName = b.javaName) : a = b := by
  cases a <;> cases b <;> first | rfl | exact absurd h (by decide)

end Kind

end JavaFragments
