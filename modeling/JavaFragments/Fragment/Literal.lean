import JavaFragments.Fragment.Draw
import JavaFragments.Options.Settings

/-! # Random literals

Literals of every kind of value, drawn within the bounds that the options give: integers
and floating-point numbers in a range, truth values, characters, and strings of a random
length.  Random kinds and the random part of variable names are drawn here as well.  Where a
type is needed the caller gives a value, which must be a kind. -/

namespace JavaFragments.Fragment

open Number

/-! ## Types -/

/-- The kind that a value is; any other value is refused, lists before all. -/
def kindOf (v : Value) (failure : String → Failure) : Except Failure Kind :=
  match v with
  | .kind k => .ok k
  | .list _ => .error (.misuse (.notAKey (.value .list)))
  | v => refuse v failure

/-- The spelling of a kind as a type of the Java language. -/
def javaType (v : Value) : Except Failure String := do
  .ok (← kindOf v .noJavaType).javaName

/-- The kind that a value is or names. -/
def readKind (v : Value) : Except Failure Kind :=
  match v.toKind? with
  | some k => .ok k
  | none => refuse v .notAKind

/-! ## Literals -/

/-- The characters of random text. -/
def charPool : List Char :=
  "abcdefghijklmnopqrstuvwxyzABCDEFGHIJKLMNOPQRSTUVWXYZ0123456789".toList

/-- A character of the pool. -/
def drawChar : Draw Char := Draw.oneOf 'a' charPool.tail

/-- Characters of the pool. -/
def drawChars : (length : Nat) → Draw (List Char)
  | 0 => return []
  | length + 1 => do
    let c ← drawChar
    return c :: (← drawChars length)

/-- An integer literal with the given bounds, the upper one excluded. -/
def drawInteger (low high : Value) : Draw String := do
  numeral (← Draw.within low high)

/-- A literal of type `float`: a number from zero to one, scaled by a whole number. -/
def drawFloat (scale : Value) : Draw String := do
  -- the number is drawn before the scale is looked at
  let x ← Draw.random
  let n ← Draw.upToValue scale
  match Binary64.ofInt? n with
  | some y => return (x.mul y).text ++ "f"
  | none => throw .tooLarge

/-- A literal of type `boolean`. -/
def drawBool : Draw String := Draw.oneOf "true" ["false"]

/-- A literal of type `char`. -/
def drawCharLiteral : Draw String := do
  return String.ofList ['\'', ← drawChar, '\'']

/-- A literal of type `String` with the given bounds of its length, both included. -/
def drawString (minLength maxLength : Value) : Draw String := do
  let length ← Draw.within minLength (← orMisuse (maxLength.next .sum))
  return String.ofList ('"' :: (← drawChars length.toNat) ++ ['"'])

/-- A literal of a kind; `void` has none. -/
def drawLiteral (s : Settings) : Kind → Draw String
  | .int => drawInteger (s.get .intMin) (s.get .intMax)
  | .long => drawInteger (s.get .longMin) (s.get .longMax)
  | .float => drawFloat (s.get .floatScale)
  | .bool => drawBool
  | .char => drawCharLiteral
  | .string => drawString (s.get .stringMinLength) (s.get .stringMaxLength)
  | .void => refuse (.kind .void) .noLiteral

/-- A literal of the kind that a value is. -/
def drawValue (s : Settings) (type : Value) : Draw String := do
  drawLiteral s (← kindOf type .noLiteral)

/-- A kind; `void` is a candidate if allowed, by the caller or else by the options. -/
def drawKind (s : Settings) (allowVoid : Option Bool) : Draw Kind :=
  Draw.oneOf .int (Kind.candidates (allowVoid.getD (s.get .randomVoid).truth)).tail

/-- A name for a local variable of a method: the name of the method and a random number. -/
def drawVarName (s : Settings) (methodName : String) : Draw String := do
  let suffix ← numeral (← Draw.upToValue (s.get .varSuffixMax))
  return s!"var_{methodName}_{suffix}"

end JavaFragments.Fragment
