import JavaFragments.Text.Blank

/-! # Lines of sectioned text

What a line is depends on nothing but the line, apart from the question whether an
indented line continues the value above it. -/

namespace JavaFragments.Ini

open Text

/-- A line by what can be told of it alone. -/
inductive Line
  /-- A comment, as if it were not there. -/
  | comment
  /-- White space only. -/
  | blank
  /-- Text that starts in column `indent`, without the white space around it. -/
  | text (indent : Nat) (content : List Char)
deriving DecidableEq, Repr

/-- Text that is neither blank nor a comment, by what stands in it. -/
inductive Content
  /-- The header of a section. -/
  | header (name : List Char)
  /-- An option with its value. -/
  | entry (name value : List Char)
  /-- Neither. -/
  | other
deriving DecidableEq, Repr

/-- Classifies a line. -/
def Line.ofChars (s : List Char) : Line :=
  match strip s with
  | [] => .blank
  | c :: content =>
    if c = '#' ∨ c = ';' then .comment
    else .text (s.takeWhile isBlank).length (c :: content)

/-- The name between an opening bracket at the start and the last closing bracket; there
    must be at least one character between them. -/
def headerName? : List Char → Option (List Char)
  | '[' :: s =>
    match s.reverse.dropWhile (· ≠ ']') with
    | _ :: c :: name => some (c :: name).reverse
    | _ => none
  | _ => none

/-- Whether `c` separates an option from its value. -/
def isDelimiter (c : Char) : Bool := c = '=' || c = ':'

/-- The option before the first delimiter and the value behind it. -/
def entry? (s : List Char) : Option (List Char × List Char) :=
  match s.dropWhile (!isDelimiter ·) with
  | [] => none
  | _ :: value => some (stripRight (s.takeWhile (!isDelimiter ·)), strip value)

/-- Classifies the text of a line. -/
def Content.ofChars (s : List Char) : Content :=
  match headerName? s with
  | some name => .header name
  | none =>
    match entry? s with
    | some (name, value) => .entry name value
    | none => .other

end JavaFragments.Ini
