import JavaFragments.Ini.Document

/-! # Writing sectioned text

Each table is written as a header, its options with an optional comment above each, and a
line of hyphens that a reader takes for a comment. -/

namespace JavaFragments.Ini

/-- Help texts of the options of a section. -/
abbrev HelpTable := OrderedMap String String

/-- How a stored value is written; lines that are not put together are listed. -/
def RawValue.written : RawValue → String
  | .text s => s
  | .lines ls => "[" ++ String.intercalate ", " (ls.map Text.quoted) ++ "]"

/-- The comment line that closes a section. -/
def rule : String := "#" ++ String.ofList (List.replicate 40 '-') ++ "\n"

/-- What is written for one option. -/
def entryText (delimiter : String) (help? : Option String) (option : String) (value : RawValue) :
    String :=
  (match help? with | some help => s!"\n# {help}\n" | none => "") ++
    s!"{option}{delimiter}{value.written}\n"

/-- What is written for one table. -/
def tableText (delimiter : String) (help : HelpTable) (name : String) (t : Table) : String :=
  s!"\n[{name}]\n" ++
    String.join (t.entries.map fun e => entryText delimiter (help.get? e.1) e.1 e.2) ++
    rule ++ "\n"

/-- The delimiter between option and value. -/
def delimiter (spaces : Bool) : String := if spaces then " = " else "="

/-- The text of a document with help: the defaults if there are any, then the sections. -/
def documentText (spaces : Bool) (help : OrderedMap String HelpTable) (d : Document) : String :=
  let helpOf name := (help.get? name).getD .empty
  let text name t := tableText (delimiter spaces) (helpOf name) name t
  (if d.defaults.isEmpty then "" else text defaultsName d.defaults) ++
    String.join (d.sections.entries.map fun e => text e.1 e.2)

end JavaFragments.Ini
