import JavaFragments.Ini.Interpolation
import JavaFragments.Ini.Reader
import JavaFragments.Ini.Writer

/-! # Documents with help

An annotated document records help texts for options and writes them as comments above
the options.  A help table comes into being with a section that is added; a section that
is read has none. -/

namespace JavaFragments.Ini

/-- A document with help texts for its options. -/
structure Annotated where
  document : Document := .empty
  help : OrderedMap String HelpTable := .empty

namespace Annotated

/-- The document without anything in it. -/
def empty : Annotated := {}

/-- Adds an empty section with an empty help table. -/
def addSection (a : Annotated) (name : String) : Except Error Unit × Annotated :=
  match a.document.addSection name with
  | .error e => (.error e, a)
  | .ok d => (.ok (), { document := d, help := a.help.put name .empty })

/-- Stores a value, none standing for one that is no text, and records help for it.  A
    section that is not there is added first; what was done before a failure stays. -/
def set (a : Annotated) (sectionName option : String) (value? help? : Option String) :
    Except Error Unit × Annotated :=
  let (added, a) := if a.document.hasSection sectionName then (.ok (), a) else a.addSection sectionName
  match added with
  | .error e => (.error e, a)
  | .ok () =>
    match a.document.set sectionName option value? with
    | .error e => (.error e, a)
    | .ok d =>
      let a := { a with document := d }
      match help?, a.help.get? sectionName with
      | none, _ => (.ok (), a)
      | some _, none => (.error (.noHelpTable sectionName), a)
      | some help, some table =>
        (.ok (), { a with help := a.help.put sectionName (table.put option help) })

/-- Reads a text into the document. -/
def readText (a : Annotated) (text : String) : Except Error Unit × Annotated :=
  let (result, d) := a.document.readText text
  (result, { a with document := d })

/-- The value of an option, with its references replaced. -/
def get (a : Annotated) (sectionName option : String) : Except Error String :=
  a.document.get sectionName option

/-- The text of the document, with its help texts as comments. -/
def write (a : Annotated) (spaces : Bool := true) : String :=
  documentText spaces a.help a.document

end Annotated

end JavaFragments.Ini
