import JavaFragments.Options.Failure

/-! # Overrides

An override is a value given for an option by name.  It must have the type of the option:
a truth value is no integer, and an integer stands for a floating-point number if it is
not too large for one. -/

namespace JavaFragments

open Number

/-- Why a value does not do for an option. -/
inductive Mismatch
  | wrongType
  | tooLarge
deriving DecidableEq, Repr

/-- The value as one that an option of this type can hold. -/
def OptionType.convert : (t : OptionType) → Value → Except Mismatch t.Carrier
  | seed, .null => .ok none
  | seed, .int n => .ok (some n)
  | float, .float x => .ok x
  | float, .int n => (Binary64.ofInt? n).elim (.error .tooLarge) .ok
  | bool, .bool b => .ok b
  | int, .int n => .ok n
  | str, .str s => .ok s
  | _, _ => .error .wrongType

namespace Options

/-- The value that an override gives to an option. -/
def convert (n : OptionName) (v : Value) : Except Failure n.type.Carrier :=
  match n.type.convert v with
  | .ok c => .ok c
  | .error .tooLarge => .error .tooLarge
  | .error .wrongType =>
    match v.describe with
    | .ok s => .error (.rejected (.wrongType n s))
    | .error e => .error (.tooLong e)

/-- The option that an override is for. -/
def nameOf (key : String) : Except Failure OptionName :=
  match OptionName.ofKey? key with
  | some n => .ok n
  | none => .error (.rejected (.unknownOption key))

/-- The value that an override gives, as a value of any type. -/
def convertOverride (key : String) (v : Value) : Except Failure Value := do
  let n ← nameOf key
  let c ← convert n v
  .ok (n.type.toValue c)

/-- The options after one override. -/
def applyOverride (o : Options) (key : String) (v : Value) : Except Failure Options := do
  let n ← nameOf key
  let c ← convert n v
  .ok (o.update n c)

/-- The options after overrides, one after the other. -/
def applyOverrides : Options → List (String × Value) → Except Failure Options
  | o, [] => .ok o
  | o, (key, v) :: rest => do applyOverrides (← applyOverride o key v) rest

/-- The arguments that stand in for overrides of their name, in the order of refusal. -/
def arguments : List Argument := [.fileName, .directory, .read]

/-- Refuses overrides of the name of something else: the first of those, and only then one
    of the name of the configuration itself. -/
def checkNames (overrides : List (String × Value)) : Except Failure Unit :=
  let keys := overrides.map Prod.fst
  match keys.findSome? fun key => arguments.find? fun a => a.key = key with
  | some a => .error (.repeatedArgument a)
  | none =>
    if keys.contains Argument.itself.key then .error (.repeatedArgument .itself) else .ok ()

end Options

end JavaFragments
