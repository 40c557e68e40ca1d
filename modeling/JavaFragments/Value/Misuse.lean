import JavaFragments.Text.Escape
import JavaFragments.Text.Template
import JavaFragments.Value

/-! # Misuse of values and records

A value that was assigned without a check may turn out not to do what is asked of it: two
values may have no order, a value may be no number, no text or no list.  A record may lack
the attribute that it is asked for.  `Misuse` is what is found wrong, `Misuse.message` the
wording. -/

namespace JavaFragments

open Number

/-- The comparisons of two values. -/
inductive Comparison
  | less
  | atMost
  | greater
  | atLeast
deriving DecidableEq, Repr

/-- The sign of a comparison. -/
def Comparison.sign : Comparison → String
  | less => "<"
  | atMost => "<="
  | greater => ">"
  | atLeast => ">="

/-- The bounds of a range. -/
inductive Bound
  | low
  | high
deriving DecidableEq, Repr

/-- The word for a bound in messages. -/
def Bound.word : Bound → String
  | low => "arg 1"
  | high => "stop"

/-- How one is added to a value. -/
inductive Increment
  /-- The sum is a new value. -/
  | sum
  /-- The value is replaced by the sum. -/
  | inPlace
deriving DecidableEq, Repr

/-- The sign of an addition. -/
def Increment.sign : Increment → String
  | sum => "+"
  | inPlace => "+="

/-- The sorts of records. -/
inductive RecordSort
  | classDecl
  | methodDecl
  | fieldDecl
  | localVar
deriving DecidableEq, Repr

/-- The word for a sort of records in messages. -/
def RecordSort.word : RecordSort → String
  | classDecl => "Clazz"
  | methodDecl => "Method"
  | fieldDecl => "Field"
  | localVar => "Variable"

/-- What may have parts. -/
inductive Holder
  /-- A value of a type. -/
  | value (type : ValueType)
  /-- A record of a sort. -/
  | record (sort : RecordSort)
  /-- What holds the options. -/
  | configuration
deriving DecidableEq

/-- The word for a holder of parts in messages. -/
def Holder.word : Holder → String
  | value type => type.word
  | record sort => sort.word
  | configuration => "GeneratorConfig"

/-- Attributes that everything has and that no value can be assigned to. -/
inductive Reserved
  /-- What sort of thing it is. -/
  | sort
  /-- The table of its attributes. -/
  | table
  /-- Who is to be told when it is given up. -/
  | watchers
deriving DecidableEq, Repr

namespace Reserved

/-- The name of a reserved attribute. -/
def key : Reserved → String
  | sort => "__class__"
  | table => "__dict__"
  | watchers => "__weakref__"

/-- The reserved attribute of a name. -/
def ofKey? (key : String) : Option Reserved :=
  [sort, table, watchers].find? fun a => a.key = key

/-- Wording of the refusal of a value for an attribute of something. -/
def message (owner : Holder) (type : ValueType) : Reserved → String
  | sort => s!"{sort.key} must be set to a class, not '{type.word}' object"
  | table => s!"{table.key} must be set to a dictionary, not a '{type.word}'"
  | watchers => s!"attribute '{watchers.key}' of '{owner.word}' objects is not writable"

end Reserved

/-- Why a value does not do what is asked of it. -/
inductive Misuse
  /-- Two values have no order. -/
  | unordered (comparison : Comparison) (left right : ValueType)
  /-- Nothing can be added to a value. -/
  | notAddable (increment : Increment) (type : ValueType)
  /-- A number cannot be joined to a text or list. -/
  | notJoinable (type : ValueType)
  /-- A value has no items. -/
  | notIterable (type : ValueType)
  /-- Something has no part of this name. -/
  | noPart (owner : Holder) (part : String)
  /-- Something cannot be looked up in a table. -/
  | notAKey (what : Holder)
  /-- A value is no number. -/
  | notANumber (type : ValueType)
  /-- A text is no numeral. -/
  | notANumeral (cause : NotANumeral)
  /-- A bound is no whole number. -/
  | notWhole (bound : Bound)
  /-- A bound is infinite. -/
  | infiniteBound
  /-- A bound is no number at all. -/
  | undefinedBound
  /-- An item of a list of texts is no text. -/
  | notAText (position : Nat) (type : ValueType)
  /-- A value that should be a character is no text. -/
  | notCharacters (type : ValueType)
  /-- A text that should be a character is not one. -/
  | notOneCharacter (e : Text.NotOneCharacter)
  /-- A random source cannot be started with a value. -/
  | notASeed
  /-- A value is no path. -/
  | notAPath (type : ValueType)
  /-- A value cannot be put behind a path. -/
  | notInPath (type : ValueType)
  /-- A value is no action, and cannot be carried out in the place of one. -/
  | notAnAction (type : ValueType)
  /-- An attribute of something cannot be assigned to. -/
  | reserved (a : Reserved) (owner : Holder) (type : ValueType)
  /-- A number cannot be put into a text. -/
  | template (f : Text.TemplateFault)
  /-- A value has no remainder. -/
  | noRemainder (type : ValueType)
  /-- There is no remainder of a value modulo zero. -/
  | zeroModulus (type : ValueType)
  /-- A value is no position in a script. -/
  | notAPosition (type : ValueType)
  /-- There is no number in a script. -/
  | emptyScript
  /-- Records refer to each other too deep to be compared. -/
  | tooNested
deriving DecidableEq

/-- Wording of a misuse. -/
def Misuse.message : Misuse → String
  | unordered c a b =>
    s!"'{c.sign}' not supported between instances of '{a.word}' and '{b.word}'"
  | notAddable i t => s!"unsupported operand type(s) for {i.sign}: '{t.word}' and 'int'"
  | notJoinable t => s!"can only concatenate {t.word} (not \"int\") to {t.word}"
  | notIterable t => s!"'{t.word}' object is not iterable"
  | noPart owner part => s!"'{owner.word}' object has no attribute '{part}'"
  | notAKey what => s!"unhashable type: '{what.word}'"
  | notANumber t =>
    s!"int() argument must be a string, a bytes-like object or a real number, not '{t.word}'"
  | notANumeral cause => cause.message
  | notWhole bound => s!"non-integer {bound.word} for randrange()"
  | infiniteBound => "cannot convert float infinity to integer"
  | undefinedBound => "cannot convert float NaN to integer"
  | notAText position t => s!"sequence item {position}: expected str instance, {t.word} found"
  | notCharacters t => s!"'in <string>' requires string as left operand, not {t.word}"
  | notOneCharacter e => e.message
  | notAPath t => s!"expected str, bytes or os.PathLike object, not {t.word}"
  | notInPath t => s!"join() argument must be str, bytes, or os.PathLike object, not '{t.word}'"
  | notAnAction t => s!"'{t.word}' object is not callable"
  | reserved a owner t => a.message owner t
  | template f => f.message
  | noRemainder t => s!"unsupported operand type(s) for %: '{t.word}' and 'int'"
  | zeroModulus t => if t = .float then "float modulo" else "integer modulo by zero"
  | notAPosition t => s!"list indices must be integers or slices, not {t.word}"
  | emptyScript => "list index out of range"
  | tooNested => "maximum recursion depth exceeded in comparison"
  | notASeed => "The only supported seed types are: None,\nint, float, str, bytes, and bytearray."

end JavaFragments
