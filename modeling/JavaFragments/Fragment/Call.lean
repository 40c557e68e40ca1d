import JavaFragments.Fragment.Declaration

/-! # Calls

A call assigns its result to a variable.  It is written bare, or inside a block that
ignores exceptions. -/

namespace JavaFragments.Fragment

/-- A call as it is written. -/
structure CallSite where
  text : String
  /-- Whether the method around it has to declare the exception. -/
  mayThrow : Bool
deriving DecidableEq, Repr

/-- The texts among names, which all names must be; `position` is that of the first. -/
def nameTexts : (position : Nat) → List Value → Except Misuse (List String)
  | _, [] => .ok []
  | position, .str s :: names => do .ok (s :: (← nameTexts (position + 1) names))
  | position, v :: _ => .error (.notAText position v.type)

/-- The names of the variables of an argument list. -/
def argumentText (names : List Value) : Except Failure String := do
  .ok (String.intercalate ", " (← orMisuse (nameTexts 0 names)))

/-- A method as it is called, by its owner and its name. -/
def calleeText (m : Record) : Except Failure String := do
  let owner ← written (← orMisuse (m.get .owner))
  .ok s!"{owner}.{← written m.name}"

/-- A call of a method. -/
def callText (m : Record) (args : List Value) : Except Failure String := do
  .ok s!"{← calleeText m}({← argumentText args})"

/-- The assignment of the result of a call.  The call is written before what it is assigned
    to. -/
def assignment (m target : Record) (args : List Value) : Except Failure String := do
  let call ← callText m args
  .ok s!"{← typePrefix target}{← written target.name} = {call};"

/-- A statement inside a block that ignores exceptions. -/
def wrapped (statement : String) : String :=
  "try \x7b\n" ++ statement ++ "\n\x7d catch (Exception ignored) \x7b\x7d\n"

/-- Names that are texts are their own texts. -/
private theorem nameTexts_str (position : Nat) (names : List String) :
    nameTexts position (names.map .str) = .ok names := by
  induction names generalizing position with
  | nil => rfl
  | cons s names ih => simp [nameTexts, ih, bind, Except.bind]

/-- The argument list of names that are texts. -/
theorem argumentText_str (names : List String) :
    argumentText (names.map .str) = .ok (String.intercalate ", " names) := by
  simp [argumentText, nameTexts_str, bind, Except.bind]

end JavaFragments.Fragment
