import JavaFragments.Fragment.Literal
import JavaFragments.Record.Basic

/-! # Declarations of classes, members and local variables

A record is written by its attributes, whatever its sort. -/

namespace JavaFragments.Fragment

/-- The type of a variable and a blank, where it has to be declared. -/
def typePrefix (d : Record) : Except Failure String := do
  if (← orMisuse (d.get .declared)).truth then .ok ""
  else .ok ((← javaType (← orMisuse (d.get .type))) ++ " ")

/-- The head of a class. -/
def classDeclaration (name : String) (parentName? : Option Value) : Except Failure String :=
  match parentName? with
  | none => .ok s!"public class {name}"
  | some parent => do .ok s!"public class {name} extends {← written parent}"

/-- A static method without parameters, with its body.  Whether it declares the exception
    is said by the caller or else by the method. -/
def methodDeclaration (s : Settings) (d : Record) (declareThrows : Option Bool) :
    Except Failure String := do
  let declares ←
    match declareThrows with
    | some declares => pure declares
    | none => do pure (← orMisuse (d.get .throws)).truth
  let type ← javaType (← orMisuse (d.get .returnType))
  let header := s!"public static {type} {← written d.name}()"
  let throwing ←
    if declares then do pure s!" throws {← written (s.get .exceptionClass)}" else pure ""
  let body ← written (← orMisuse (d.get .body))
  .ok (header ++ throwing ++ " \x7b\n" ++ body ++ "\x7d\n")

/-- A static field, with its initial value if it has one. -/
def fieldDeclaration (d : Record) : Except Failure String := do
  let type ← javaType (← orMisuse (d.get .type))
  let head := s!"public static {type} {← written d.name}"
  match ← orMisuse (d.get .initialValue) with
  | .null => .ok head
  | value => .ok s!"{head} = {← written value}"

/-- A local variable with a random value.  The value is drawn before the type is written. -/
def variableDeclaration (s : Settings) (d : Record) : Draw String := do
  let value ← drawValue s (← orMisuse (d.get .type))
  let type ← typePrefix d
  return s!"{type}{← written d.name} = {value}"

end JavaFragments.Fragment
