import JavaFragments.Ini.Reader
import JavaFragments.Options.Check
import JavaFragments.Options.Location
import JavaFragments.Options.Lookup
import JavaFragments.Options.Override

/-! # Configurations

A configuration takes each option from the overrides, else from the options file if it
is to be read, else from the defaults, and refuses options that contradict each other.
It keeps the document it has read, for further look-ups; its options, where its file is,
and what it does may be assigned to. -/

namespace JavaFragments.Options

open Text

/-- The options of a document and of overrides; of two overrides of one option the later
    counts. -/
def ofSources (d : Ini.Document) (overrides : List (String × Value)) : Except Failure Options := do
  let o ← load d
  let o ← applyOverrides o (OrderedMap.ofList overrides).entries
  o.check
  .ok o

/-- The lines of a text that are complete although more of it may come: a carriage return
    at the end may be half a line end. -/
def completeLines (s : List Char) : List (List Char) :=
  let s := if s.getLast? = some '\r' then s.dropLast else s
  (splitLines (normalizeNewlines s)).filter fun line => line.getLast? = some '\n'

/-- Reads a file into a document.  What could be decoded before a fault is read first. -/
def readFile (path : String) : FileContent → Except Failure Ini.Document
  | .text s => finish (Ini.Document.empty.readLines path (splitLines (normalizeNewlines s.toList)))
  | .bytes bs =>
    let decoded := Utf8.decodeBlocks bs
    match decoded.fault with
    | none => finish (Ini.Document.empty.readLines path (splitLines (normalizeNewlines decoded.text)))
    | some fault =>
      -- a line that is refused comes before the fault behind it
      match Ini.Progress.run path 1 (completeLines decoded.text) { document := .empty } with
      | .error (e, _) => .error (.ini e)
      | .ok _ => .error (.encoding fault)
where
  /-- The document that was read, unless reading failed. -/
  finish : Except Ini.Error Unit × Ini.Document → Except Failure Ini.Document
    | (.ok (), d) => .ok d
    | (.error e, _) => .error (.ini e)

/-- What a configuration is made from. -/
structure Request where
  /-- Name of the options file. -/
  name? : Option String := none
  /-- Directory of the options file. -/
  directory? : Option String := none
  /-- Whether the file is to be read. -/
  read : Bool := false
  /-- Options given by the caller. -/
  overrides : List (String × Value) := []

/-- What a configuration can be asked for by name. -/
inductive Service
  | check
  | sample
  /-- A value of its document, as an option of a type. -/
  | look (t : OptionType)
  /-- The reading of a text as an option of a type. -/
  | convert
  /-- A text of its document. -/
  | document
deriving DecidableEq, Repr

/-- Options with what they were made from.  All but the document may be assigned to. -/
structure Configuration where
  /-- The path of the file, if it was to be read. -/
  path : Value
  /-- Name of the options file, or null. -/
  name : Value
  /-- Directory of the options file, or null. -/
  directory : Value
  document : Ini.Document
  settings : Settings
  /-- The types of the values that were assigned in the place of services. -/
  replaced : OrderedMap Service ValueType := .empty

/-- The document at a path; an empty one where there is no file. -/
def documentAt (tree : FileTree) (path : String) : Except Failure Ini.Document :=
  match tree.read? (Path.ofText path) with
  | some content => readFile path content
  | none => .ok .empty

/-- The configuration for a request. -/
def configure (env : Environment) (tree : FileTree) (request : Request) :
    Except Failure Configuration := do
  checkNames request.overrides
  let name := .ofText? request.name?
  let directory := .ofText? request.directory?
  let path? ←
    if request.read then some <$> filePath env name directory else .ok none
  let document ←
    match path? with
    | some path => documentAt tree path
    | none => .ok .empty
  let options ← ofSources document request.overrides
  .ok { path := .ofText? path?, name, directory, document, settings := .ofOptions options }

/-! ## Assignments

Whatever is assigned to is changed without a check.  A value in the place of a service
makes no difference before the service is asked for. -/

/-- What of a configuration can be assigned to. -/
inductive Assignable
  | path
  | name
  | directory
  | service (s : Service)
  /-- An attribute that cannot be assigned to. -/
  | reserved (a : Reserved)
  /-- The option with a name, if there is one. -/
  | option (key : String)
deriving DecidableEq, Repr

/-- The settings after an assignment to what holds them. -/
def Assignable.assignSettings (v : Value) (s : Settings) : Assignable → Except Misuse Settings
  | reserved a => .error (.reserved a .configuration v.type)
  | option key => .ok (s.assign key v)
  | _ => .ok s

namespace Configuration

/-- The configuration after an assignment. -/
def assign (c : Configuration) (v : Value) : Assignable → Except Misuse Configuration
  | .path => .ok { c with path := v }
  | .name => .ok { c with name := v }
  | .directory => .ok { c with directory := v }
  | .service s => .ok { c with replaced := c.replaced.put s v.type }
  | target => do .ok { c with settings := ← target.assignSettings v c.settings }

/-! ## Services -/

/-- Refuses a service that a value is in the place of. -/
def checkService (c : Configuration) (s : Service) : Except Failure Unit :=
  match c.replaced.get? s with
  | none => .ok ()
  | some t => .error (.misuse (.notAnAction t))

/-- The part of a document that is asked for a value of an option type. -/
def documentPart : OptionType → String
  | .seed | .str => "get"
  | .int => "getint"
  | .float => "getfloat"
  | .bool => "getboolean"

/-- Refuses a value in the place of the document, which has no such part. -/
def checkDocument (c : Configuration) (t : OptionType) : Except Failure Unit :=
  match c.replaced.get? .document with
  | none => .ok ()
  | some v => .error (.misuse (.noPart (.value v) (documentPart t)))

/-- Refuses settings that contradict each other. -/
def check (c : Configuration) : Except Failure Unit := do
  c.checkService .check
  c.settings.check

/-- The value under a section and key of the document, or the one to fall back on. -/
def answer (c : Configuration) (t : OptionType) (sectionName key : String) (fallback : Value) :
    Except Failure Value := do
  c.checkService (.look t)
  -- a seed is looked up as a text
  if t = .seed then c.checkService (.look .str)
  c.checkDocument t
  c.checkService .convert
  Options.answer c.document t sectionName key fallback

end Configuration

end JavaFragments.Options
