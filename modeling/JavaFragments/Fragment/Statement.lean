import JavaFragments.Fragment.Declaration
import JavaFragments.Text.Escape

/-! # Fragments of control flow -/

namespace JavaFragments.Fragment

/-- The opening of a block. -/
def openBlock : String := " \x7b\n"

/-- The end of a block. -/
def closeBlock : String := "\x7d\n"

/-- The end of a statement. -/
def semicolon : String := ";\n"

/-- The head of a conditional. -/
def ifStatement (condition : String) : String := s!"if {condition} "

/-- The head of the alternative of a conditional. -/
def elseStatement : String := "else "

/-- The head of a loop that counts a variable up from `start` while it is below `bound`. -/
def forStatement (d : Record) (bound start : String) : Except Failure String := do
  let type ← typePrefix d
  let name ← written d.name
  .ok s!"for ({type}{name} = {start}; {name} < {bound}; {name}++)"

/-- A `return` of a random value; of none if nothing is returned. -/
def defaultReturn (s : Settings) (type : Value) : Draw String :=
  match type with
  | .kind .void => return "return"
  | type => do return s!"return {← drawValue s type}"

/-- A value that should be one character, as it stands inside a Java string literal. -/
def escapeItem : Value → Except Failure String
  | .str s =>
    match Text.escapeCharacter (Text.codePoints s) with
    | .ok cs => .ok (String.ofList cs)
    | .error e => .error (.misuse (.notOneCharacter e))
  | v => .error (.misuse (.notCharacters v.type))

/-- A message as it stands inside a Java string literal: a text, or a list of characters. -/
def escapeMessage : Value → Except Failure String
  | .str s => .ok (Text.escapeString s)
  | .list vs => do .ok (String.join (← vs.mapM escapeItem))
  | v => .error (.misuse (.notIterable v.type))

/-- A statement that throws an exception with a message, by default those of the options. -/
def throwStatement (s : Settings) (exception? message? : Option String) :
    Except Failure String := do
  let exception ←
    match exception? with
    | some exception => .ok exception
    | none => written (s.get .exceptionClass)
  let message ←
    match message? with
    | some message => .ok (Text.escapeString message)
    | none => escapeMessage (s.get .throwMessage)
  .ok s!"throw new {exception}(\"{message}\")"

end JavaFragments.Fragment
