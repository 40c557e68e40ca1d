import JavaFragments.Value

/-! # Options of a generation session

There are thirteen options of five types.  `OptionName` names them, `Options` holds a
value for each, and `Options.get` and `Options.update` reach the value under a name. -/

namespace JavaFragments

open Number

/-- The type of an option. -/
inductive OptionType
  /-- An integer, or nothing. -/
  | seed
  | float
  | bool
  | int
  | str
deriving DecidableEq, Repr

/-- What an option of this type holds. -/
def OptionType.Carrier : OptionType → Type
  | seed => Option Int
  | float => Binary64
  | bool => Bool
  | int => Int
  | str => String

/-- The options. -/
inductive OptionName
  | seed
  | tryCatchWeight
  | randomVoid
  | intMin
  | intMax
  | longMin
  | longMax
  | floatScale
  | stringMinLength
  | stringMaxLength
  | varSuffixMax
  | exceptionClass
  | throwMessage
deriving DecidableEq, Repr

namespace OptionName

/-- All options, in the order in which they are read and listed. -/
def all : List OptionName := [
  seed, tryCatchWeight, randomVoid, intMin, intMax, longMin, longMax, floatScale,
  stringMinLength, stringMaxLength, varSuffixMax, exceptionClass, throwMessage]

/-- The key of an option in files and overrides. -/
def key : OptionName → String
  | seed => "seed"
  | tryCatchWeight => "try_catch_weight"
  | randomVoid => "random_void"
  | intMin => "int_min"
  | intMax => "int_max"
  | longMin => "long_min"
  | longMax => "long_max"
  | floatScale => "float_scale"
  | stringMinLength => "string_min_length"
  | stringMaxLength => "string_max_length"
  | varSuffixMax => "var_suffix_max"
  | exceptionClass => "exception_class"
  | throwMessage => "throw_message"

/-- What an option is for. -/
def help : OptionName → String
  | seed => "Seed of the random source (None: seeded by the operating system)"
  | tryCatchWeight => "Probability of wrapping a call to a throwing method in try/catch"
  | randomVoid => "Allow random return types to be void"
  | intMin => "Smallest int literal (inclusive)"
  | intMax => "Largest int literal (exclusive)"
  | longMin => "Smallest long literal (inclusive)"
  | longMax => "Largest long literal (exclusive)"
  | floatScale => "Float literals are random() * randrange(float_scale)"
  | stringMinLength => "Minimum length of String literals"
  | stringMaxLength => "Maximum length of String literals (inclusive)"
  | varSuffixMax => "Local variable names get a random suffix in [0, var_suffix_max)"
  | exceptionClass => "Exception class used by throw statements and throws clauses"
  | throwMessage => "Message of thrown exceptions"

/-- The type of an option. -/
def type : OptionName → OptionType
  | seed => .seed
  | tryCatchWeight => .float
  | randomVoid => .bool
  | exceptionClass | throwMessage => .str
  | _ => .int

/-- The option with the given key. -/
def ofKey? (s : String) : Option OptionName := all.find? fun n => n.key = s

/-- Every option is listed. -/
theorem mem_all (n : OptionName) : n ∈ all := by cases n <;> decide

/-- An option is found by its key. -/
theorem ofKey?_key (n : OptionName) : ofKey? n.key = some n := by cases n <;> decide

end OptionName

/-- A value for every option. -/
structure Options where
  seed : Option Int
  tryCatchWeight : Binary64
  randomVoid : Bool
  intMin : Int
  intMax : Int
  longMin : Int
  longMax : Int
  floatScale : Int
  stringMinLength : Int
  stringMaxLength : Int
  varSuffixMax : Int
  exceptionClass : String
  throwMessage : String
deriving DecidableEq

namespace Options

/-- The values that options have where nothing is said. -/
def defaults : Options where
  seed := none
  tryCatchWeight := .ofRatio 6 10
  randomVoid := false
  intMin := -1000
  intMax := 2000
  longMin := 3214
  longMax := 136812497
  floatScale := 2435
  stringMinLength := 5
  stringMaxLength := 16
  varSuffixMax := 10000
  exceptionClass := "RuntimeException"
  throwMessage := "reason"

instance : Inhabited Options := ⟨defaults⟩

/-- The value of an option. -/
def get (o : Options) : (n : OptionName) → n.type.Carrier
  | .seed => o.seed
  | .tryCatchWeight => o.tryCatchWeight
  | .randomVoid => o.randomVoid
  | .intMin => o.intMin
  | .intMax => o.intMax
  | .longMin => o.longMin
  | .longMax => o.longMax
  | .floatScale => o.floatScale
  | .stringMinLength => o.stringMinLength
  | .stringMaxLength => o.stringMaxLength
  | .varSuffixMax => o.varSuffixMax
  | .exceptionClass => o.exceptionClass
  | .throwMessage => o.throwMessage

/-- The options with another value for one of them. -/
def update (o : Options) : (n : OptionName) → n.type.Carrier → Options
  | .seed, v => { o with seed := v }
  | .tryCatchWeight, v => { o with tryCatchWeight := v }
  | .randomVoid, v => { o with randomVoid := v }
  | .intMin, v => { o with intMin := v }
  | .intMax, v => { o with intMax := v }
  | .longMin, v => { o with longMin := v }
  | .longMax, v => { o with longMax := v }
  | .floatScale, v => { o with floatScale := v }
  | .stringMinLength, v => { o with stringMinLength := v }
  | .stringMaxLength, v => { o with stringMaxLength := v }
  | .varSuffixMax, v => { o with varSuffixMax := v }
  | .exceptionClass, v => { o with exceptionClass := v }
  | .throwMessage, v => { o with throwMessage := v }

/-- An option that is updated has the new value. -/
@[simp] theorem get_update_self (o : Options) (n : OptionName) (v : n.type.Carrier) :
    (o.update n v).get n = v := by cases n <;> rfl

/-- The other options keep theirs. -/
theorem get_update_ne (o : Options) {m n : OptionName} (h : m ≠ n) (v : m.type.Carrier) :
    (o.update m v).get n = o.get n := by cases m <;> cases n <;> first | rfl | exact absurd rfl h

/-- Options with the same value under every name are the same. -/
theorem ext_get {a b : Options} (h : ∀ n, a.get n = b.get n) : a = b := by
  cases a; cases b
  simp only [Options.mk.injEq]
  exact ⟨h .seed, h .tryCatchWeight, h .randomVoid, h .intMin, h .intMax, h .longMin,
    h .longMax, h .floatScale, h .stringMinLength, h .stringMaxLength, h .varSuffixMax,
    h .exceptionClass, h .throwMessage⟩

end Options

/-- The value that an option holds, as a value of any type. -/
def OptionType.toValue : (t : OptionType) → t.Carrier → Value
  | seed, none => .null
  | seed, some n => .int n
  | float, x => .float x
  | bool, b => .bool b
  | int, n => .int n
  | str, s => .str s

/-- The value of an option, as a value of any type. -/
def Options.value (o : Options) (n : OptionName) : Value := n.type.toValue (o.get n)

end JavaFragments
