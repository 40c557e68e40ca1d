import JavaFragments.Options.Failure

/-! # Where the options file is -/

namespace JavaFragments

/-- The variables of the environment that say where files are; not set is none. -/
structure Environment where
  configHome : Option String := none
  home : Option String := none

/-- The path of `name` in `directory`: a slash is put between them if there is none, and
    an absolute name stands for itself. -/
def joinPath (directory name : String) : String :=
  if name.toList.head? = some '/' then name
  else if directory = "" ∨ directory.toList.getLast? = some '/' then directory ++ name
  else directory ++ "/" ++ name

namespace Options

/-- The name of the options file where none is given. -/
def defaultFileName : String := "javagen.conf"

/-- The text of a variable that is set and not empty. -/
def nonEmpty? (s? : Option String) : Option String := s?.filter (· ≠ "")

/-- The directory of the options file where none is given. -/
def defaultDirectory (env : Environment) : Except Failure String :=
  match nonEmpty? env.configHome, nonEmpty? env.home with
  | some dir, _ => .ok dir
  | none, some home => .ok (joinPath home ".config")
  | none, none => .error (.rejected .noHome)

/-- The path that a value is. -/
def pathText : Value → Except Failure String
  | .str s => .ok s
  | v => .error (.misuse (.notAPath v.type))

/-- The path of the options file, by its name and directory; null is none given. -/
def filePath (env : Environment) (name directory : Value) : Except Failure String := do
  let directory ←
    match directory with
    | .null => defaultDirectory env
    | v => pathText v
  match name with
  | .null => .ok (joinPath directory defaultFileName)
  | .str s => .ok (joinPath directory s)
  | v => .error (.misuse (.notInPath v.type))

end Options

end JavaFragments
