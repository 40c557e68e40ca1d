import JavaFragments.Ini.Document
import JavaFragments.Ini.Line
import JavaFragments.Text.Lines

/-! # Reading sectioned text

A source is read line by line into a document that may hold sections already.  A section
or option given twice in one source ends the reading at once, and so does text before the
first header; then the lines of the values stay apart.  Lines that mean nothing are
collected and refused at the end, when the lines of all values have been put together. -/

namespace JavaFragments.Ini

open Text

/-- The value with a line more; a text takes none. -/
def RawValue.extend (line : String) : RawValue → RawValue
  | .lines ls => .lines (ls ++ [line])
  | .text s => .text s

/-- The value with its lines put together, without white space at the end. -/
def RawValue.settle : RawValue → RawValue
  | .text s => .text s
  | .lines ls => .text (String.ofList (stripRight (String.intercalate "\n" ls).toList))

namespace Document

/-- The document with the lines of all values put together. -/
def settle (d : Document) : Document where
  defaults := d.defaults.map RawValue.settle
  sections := d.sections.map (·.map RawValue.settle)

end Document

/-- How far the reading of a source has come. -/
structure Progress where
  document : Document
  /-- The section whose options are being read. -/
  current : Option String := none
  /-- The option whose value the next lines may continue. -/
  option : Option String := none
  /-- Column at which the last header or option started. -/
  indent : Nat := 0
  /-- Sections with a header in this source. -/
  headers : List String := []
  /-- Options given in this source, with their sections. -/
  given : List (String × String) := []
  /-- Lines that mean nothing, with their numbers. -/
  malformed : List (Nat × String) := []

namespace Progress

/-- Adds a line to the value of the open option, if there is one. -/
def extend (p : Progress) (line : List Char) : Progress :=
  match p.current, p.option with
  | some sectionName, some option =>
    let longer (t : Table) := t.modify option (RawValue.extend (String.ofList line))
    { p with document := p.document.modifyTable sectionName longer }
  | _, _ => p

/-- Notes a line that means nothing. -/
def reject (p : Progress) (number : Nat) (line : List Char) : Progress :=
  { p with malformed := p.malformed ++ [(number, String.ofList line)] }

/-- Goes on with the section of a header. -/
def enter (p : Progress) (source : String) (number : Nat) (name : String) :
    Except Error Progress :=
  let entered := { p with current := some name, option := none }
  if name = defaultsName then .ok entered
  else if p.headers.contains name then .error (.repeatedHeader source number name)
  else
    let sections := p.document.sections
    let sections := if sections.contains name then sections else sections.put name .empty
    .ok { entered with
      document := { p.document with sections := sections }
      headers := name :: p.headers }

/-- Starts the value of an option. -/
def start (p : Progress) (source : String) (number : Nat) (sectionName option : String)
    (value : List Char) : Except Error Progress :=
  if p.given.contains (sectionName, option) then
    .error (.repeatedOption source number option sectionName)
  else
    .ok { p with
      document := p.document.modifyTable sectionName
        (·.put option (.lines [String.ofList value]))
      option := if option = "" then none else some option
      given := (sectionName, option) :: p.given }

/-- Reads one line. -/
def step (p : Progress) (source : String) (number : Nat) (line : List Char) :
    Except Error Progress :=
  match Line.ofChars line with
  | .comment => .ok p
  | .blank => .ok (p.extend [])
  | .text indent content =>
    if p.option.isSome ∧ p.indent < indent then .ok (p.extend content)
    else
      -- also a line that means nothing sets the column that continuations are measured by
      let p := { p with indent := indent }
      match Content.ofChars content with
      | .header name => p.enter source number (String.ofList name)
      | c =>
        match p.current with
        | none => .error (.missingHeader source number (String.ofList line))
        | some sectionName =>
          match c with
          | .entry name value =>
            -- an option without a name is refused at the end, but counts until then
            let q := if name = [] then p.reject number line else p
            q.start source number sectionName (lower (String.ofList name)) value
          | _ => .ok (p.reject number line)

/-- Reads lines, the first of which has the given number.  A failure comes with what the
    document had become. -/
def run (source : String) : (number : Nat) → List (List Char) → Progress →
    Except (Error × Document) Progress
  | _, [], p => .ok p
  | number, line :: lines, p =>
    match p.step source number line with
    | .error e => .error (e, p.document)
    | .ok p => run source (number + 1) lines p

end Progress

/-- Ends the reading of a source. -/
def Progress.finish (p : Progress) (source : String) : Except Error Unit × Document :=
  (if p.malformed.isEmpty then .ok () else .error (.malformed source p.malformed),
    p.document.settle)

namespace Document

/-- Reads the lines of a source into a document; also a failure leaves one. -/
def readLines (d : Document) (source : String) (lines : List (List Char)) :
    Except Error Unit × Document :=
  match Progress.run source 1 lines { document := d } with
  | .error (e, d) => (.error e, d)
  | .ok p => p.finish source

/-- Name of the source when a text is read. -/
def textSource : String := "<string>"

/-- Reads a text into a document; its lines end at line feeds only. -/
def readText (d : Document) (text : String) : Except Error Unit × Document :=
  d.readLines textSource (splitLines text.toList)

end Document

end JavaFragments.Ini
