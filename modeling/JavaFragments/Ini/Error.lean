import JavaFragments.Text.Quoted

/-! # Failures of sectioned text -/

namespace JavaFragments.Ini

open Text

/-- Longest chain of references that is followed when a value is read. -/
def maxDepth : Nat := 10

/-- Why sectioned text cannot be read, changed or looked up. -/
inductive Error
  /-- There is no such section. -/
  | noSection (name : String)
  /-- The section has no such option, and neither have the defaults. -/
  | noOption (option sectionName : String)
  /-- A section to be added is there already. -/
  | sectionExists (name : String)
  /-- A section to be added has the name of the defaults. -/
  | reservedSection (name : String)
  /-- A source has two headers for one section. -/
  | repeatedHeader (source : String) (line : Nat) (name : String)
  /-- A source gives an option of a section twice. -/
  | repeatedOption (source : String) (line : Nat) (option sectionName : String)
  /-- Text stands before the first header. -/
  | missingHeader (source : String) (line : Nat) (text : String)
  /-- Lines that are neither headers nor options, with their numbers. -/
  | malformed (source : String) (lines : List (Nat × String))
  /-- A value to be stored is no text. -/
  | notText
  /-- A value to be stored has a percent sign without meaning, after others are taken out. -/
  | strayPercentStored (value : String) (position : Nat)
  /-- A percent sign in a value is followed by neither of its two partners. -/
  | strayPercent (rest : String)
  /-- A reference in a value has no end. -/
  | openReference (rest : String)
  /-- A reference names no option. -/
  | unknownReference (option sectionName key raw : String)
  /-- References lead to references more than `maxDepth` times. -/
  | tooDeep (option sectionName raw : String)
  /-- Help is given for a section that came without a place for it. -/
  | noHelpTable (sectionName : String)
  /-- A value is looked up whose lines were never put together. -/
  | unfinished
  /-- A reference leads to a value whose lines were never put together; the number is that of
      the piece it would be. -/
  | unfinishedPiece (index : Nat)
deriving DecidableEq, Repr

/-- A line number in a column of two characters. -/
def lineColumn (n : Nat) : String :=
  if n < 10 then s!" {n}" else toString n

/-- Wording of a failure. -/
def Error.message : Error → String
  | noSection name => s!"No section: {quoted name}"
  | noOption option sectionName => s!"No option {quoted option} in section: {quoted sectionName}"
  | sectionExists name => s!"Section {quoted name} already exists"
  | reservedSection name => s!"Invalid section name: {quoted name}"
  | repeatedHeader source line name =>
    s!"While reading from {quoted source} [line {lineColumn line}]: " ++
      s!"section {quoted name} already exists"
  | repeatedOption source line option sectionName =>
    s!"While reading from {quoted source} [line {lineColumn line}]: " ++
      s!"option {quoted option} in section {quoted sectionName} already exists"
  | missingHeader source line text =>
    s!"File contains no section headers.\nfile: {quoted source}, line: {line}\n{quoted text}"
  | malformed source lines =>
    s!"Source contains parsing errors: {quoted source}" ++
      String.join (lines.map fun l => s!"\n\t[line {lineColumn l.1}]: {quoted l.2}")
  | notText => "option values must be strings"
  | strayPercentStored value position =>
    s!"invalid interpolation syntax in {quoted value} at position {position}"
  | strayPercent rest =>
    s!"'%' must be followed by '%' or '(', found: {quoted rest}"
  | openReference rest => s!"bad interpolation variable reference {quoted rest}"
  | unknownReference option sectionName key raw =>
    s!"Bad value substitution: option {quoted option} in section {quoted sectionName} " ++
      s!"contains an interpolation key {quoted key} which is not a valid option name. " ++
      s!"Raw value: {quoted raw}"
  | tooDeep option sectionName raw =>
    s!"Recursion limit exceeded in value substitution: option {quoted option} " ++
      s!"in section {quoted sectionName} contains an interpolation key which " ++
      s!"cannot be substituted in {maxDepth} steps. Raw value: {quoted raw}"
  | noHelpTable sectionName => quoted sectionName
  | unfinished => "'list' object has no attribute 'find'"
  | unfinishedPiece index => s!"sequence item {index}: expected str instance, list found"

end JavaFragments.Ini
