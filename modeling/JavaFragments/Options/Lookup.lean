import JavaFragments.Ini.Interpolation
import JavaFragments.Options.Failure
import JavaFragments.Text.Blank

/-! # Options in a document

A value of a document is looked up by section and key and read as one of the option
types.  A missing section or option is no failure; a value that cannot be read is. -/

namespace JavaFragments.Options

open Number

/-- The text of a value, if it is there. -/
def lookup (d : Ini.Document) (sectionName key : String) : Except Failure (Option String) :=
  match d.get sectionName key with
  | .ok s => .ok (some s)
  | .error (.noSection _) => .ok none
  | .error (.noOption _ _) => .ok none
  | .error e => .error (.ini e)

/-- What is read is refused with the place where it stands. -/
def orUnreadable {α : Type} (sectionName key : String) (t : OptionType) :
    Except NotANumeral α → Except Failure α
  | .ok a => .ok a
  | .error cause => .error (.rejected (.unreadable key sectionName t cause))

/-- Reads a text as a seed: nothing at all and `None` are no seed. -/
def readSeed (s : String) : Except NotANumeral (Option Int) :=
  if s = "" ∨ s = "None" then .ok none else some <$> readInt .marked s

/-- Reads a text as a value of an option type. -/
def readAs : (t : OptionType) → String → Except NotANumeral t.Carrier
  | .seed, s => readSeed (Text.stripString s)
  | .float, s => readFloat s
  | .bool, s => readBool s
  | .int, s => readInt .ten s
  | .str, s => .ok (Text.stripString s)

/-- The value under a section and key, if it is there. -/
def lookupAs (d : Ini.Document) (t : OptionType) (sectionName key : String) :
    Except Failure (Option t.Carrier) := do
  match ← lookup d sectionName key with
  | none => .ok none
  | some s => some <$> orUnreadable sectionName key t (readAs t s)

/-- The seed that a value to fall back on stands for. -/
def fallbackSeed (sectionName key : String) : Value → Except Failure Value
  | .str s => do
    let seed ← orUnreadable sectionName key .seed (readSeed s)
    .ok (OptionType.seed.toValue seed)
  | .null => .ok .null
  | .int n => .ok (.int n)
  | .bool b => .ok (.bool b)
  | _ => .error .seedNotText

/-- The value under a section and key, or the value to fall back on if it is not there.
    What a seed falls back on is read as a seed; other types take it as it is. -/
def valueOr (d : Ini.Document) (t : OptionType) (sectionName key : String) (fallback : Value) :
    Except Failure Value := do
  match ← lookupAs d t sectionName key with
  | some v => .ok (t.toValue v)
  -- the value to fall back on is not checked against the type
  | none => if t = .seed then fallbackSeed sectionName key fallback else .ok fallback

/-- The value under a section and key, which must not be too long to be shown. -/
def answer (d : Ini.Document) (t : OptionType) (sectionName key : String) (fallback : Value) :
    Except Failure Value := do
  let v ← valueOr d t sectionName key fallback
  match v.describe with
  | .ok _ => .ok v
  | .error e => .error (.tooLong e)

/-- The section that holds the options. -/
def optionSection : String := "generator"

/-- The options after that of the given name is read, if it is there. -/
def loadOption (d : Ini.Document) (o : Options) (n : OptionName) : Except Failure Options := do
  match ← lookupAs d n.type optionSection n.key with
  | some v => .ok (o.update n v)
  | none => .ok o

/-- The options of a document, with the defaults for those that are not there. -/
def load (d : Ini.Document) : Except Failure Options :=
  OptionName.all.foldlM (loadOption d) defaults

end JavaFragments.Options
