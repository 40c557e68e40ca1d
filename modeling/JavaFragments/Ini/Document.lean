import JavaFragments.Ini.Error
import JavaFragments.OrderedMap
import JavaFragments.Text.LowerCase

/-! # Sectioned documents

A document is a table of defaults and a sequence of named sections, each a table of
options.  Option names are lower-cased when they are stored and looked up.  While a
source is being read a value is a list of lines; the lines are put together when the
source is read to its end.  A source that is given up before leaves them as they are,
until the next one is read to its end. -/

namespace JavaFragments.Ini

/-- The stored value of an option. -/
inductive RawValue
  /-- A text as it is written, with the references to other options in it. -/
  | text (s : String)
  /-- The lines of a value whose source is not read to its end. -/
  | lines (ls : List String)
deriving DecidableEq, Repr

/-- Options and their stored values. -/
abbrev Table := OrderedMap String RawValue

/-- Name under which the table of defaults is addressed. -/
def defaultsName : String := "DEFAULT"

/-- A table of defaults and named sections. -/
structure Document where
  defaults : Table := .empty
  sections : OrderedMap String Table := .empty

namespace Document

/-- The document without anything in it. -/
def empty : Document := {}

/-- Whether there is a section of this name; the defaults are none. -/
def hasSection (d : Document) (name : String) : Bool := d.sections.contains name

/-- The document with `f` applied to the defaults or to the named section. -/
def modifyTable (d : Document) (name : String) (f : Table → Table) : Document :=
  if name = defaultsName then { d with defaults := f d.defaults }
  else { d with sections := d.sections.modify name f }

/-- Adds an empty section. -/
def addSection (d : Document) (name : String) : Except Error Document :=
  if name = defaultsName then .error (.reservedSection name)
  else if d.hasSection name then .error (.sectionExists name)
  else .ok { d with sections := d.sections.put name .empty }

/-- The stored value of an option given by its lower case name: that of its section, or
    else the default. -/
def find? (d : Document) (sectionName key : String) : Option RawValue :=
  match (d.sections.get? sectionName).bind (·.get? key) with
  | some v => some v
  | none => d.defaults.get? key

/-- The stored value of an option. -/
def raw (d : Document) (sectionName option : String) : Except Error RawValue :=
  if !d.hasSection sectionName ∧ sectionName ≠ defaultsName then .error (.noSection sectionName)
  else
    let key := Text.lower option
    match d.find? sectionName key with
    | some v => .ok v
    | none => .error (.noOption key sectionName)

end Document

end JavaFragments.Ini
