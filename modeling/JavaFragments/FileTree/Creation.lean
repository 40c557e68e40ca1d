import JavaFragments.FileTree.Basic
import JavaFragments.Text.Quoted

/-! # Creation of files

`store` puts a file in place and creates the directories above it, from the end: the last one
is tried at once, and those above it only if something is missing.  Directories stay when the
file itself cannot be put in place.

Each directory that is missing is created by a call inside the call for the one below it, so
whoever asks for a file has room for so many of them and no more.  That room is not a matter
of the tree: it is a parameter here, and where it is too small nothing is created. -/

namespace JavaFragments.FileTree

/-- Why a file cannot be put in place. -/
inductive Error
  /-- Something on the way is missing. -/
  | missing (path : String)
  /-- A file is where a directory is needed last. -/
  | fileExists (path : String)
  /-- A file is where a directory is needed on the way. -/
  | notADirectory (path : String)
  /-- A directory is where the file should be. -/
  | isADirectory (path : String)
  /-- A name is too long. -/
  | nameTooLong (path : String)
  /-- A name holds the character that ends names. -/
  | nullByte
  /-- More directories are missing than there is room for. -/
  | tooDeep
deriving DecidableEq, Repr

/-- Wording of a failure. -/
def Error.message : Error → String
  | missing path => s!"[Errno 2] No such file or directory: {Text.quoted path}"
  | fileExists path => s!"[Errno 17] File exists: {Text.quoted path}"
  | notADirectory path => s!"[Errno 20] Not a directory: {Text.quoted path}"
  | isADirectory path => s!"[Errno 21] Is a directory: {Text.quoted path}"
  | nameTooLong path => s!"[Errno 36] File name too long: {Text.quoted path}"
  | nullByte => "embedded null byte"
  | tooDeep => "maximum recursion depth exceeded while calling a Python object"

/-- The failure of putting something where a path leads nowhere. -/
def Obstacle.error (path : Path) : Obstacle → Error
  | missing => .missing path.text
  | notADirectory => .notADirectory path.text
  | tooLong => .nameTooLong path.text
  | nullByte => .nullByte

/-- Whether a path leads to something; a name that is too long is worth a failure. -/
def exists? (t : FileTree) (p : Path) : Except Error Bool :=
  match t.locate p with
  | .ok w => .ok (t.isPresent w)
  | .error .tooLong => .error (.nameTooLong p.text)
  | .error _ => .ok false

/-- Creates a directory at the end of a path, unless it is there. -/
def makeDirectory (t : FileTree) (p : Path) : Except Error Unit × FileTree :=
  match t.locate p.trimmed with
  | .ok w =>
    if t.isDirectory w then (.ok (), t)
    else if t.isPresent w then (.error (.fileExists p.text), t)
    else (.ok (), t.put w .vacant)
  | .error o => (.error (o.error p), t)

/-- Puts a file at the end of a path. -/
def putFile (t : FileTree) (p : Path) (content : FileContent) : Except Error Unit × FileTree :=
  match t.locate p with
  | .ok w =>
    if t.isDirectory w then (.error (.isADirectory p.text), t)
    else (.ok (), t.put w (.file content))
  | .error o => (.error (o.error p), t)

/-- Creates the directory at the end of steps, of which the last comes first, and those above
    it that are missing, if there is room for them. -/
def makeDirectories (t : FileTree) (slashes : Nat) :
    (room : Nat) → (lastFirst : List String) → Except Error Unit × FileTree
  | _, [] => (.ok (), t)
  | room, step :: above =>
    let place : Path := ⟨slashes, (step :: above).reverse⟩
    match t.makeDirectory place, room with
    | (.error (.missing _), t), 0 => (.error .tooDeep, t)
    | (.error (.missing _), t), room + 1 =>
      match t.makeDirectories slashes room above with
      | (.error e, t) => (.error e, t)
      | (.ok (), t) => t.makeDirectory place
    | result, _ => result

/-- Creates the directories of a tidy path, with room for so many above the last one. -/
def makePath (t : FileTree) (room : Nat) (p : Path) : Except Error Unit × FileTree :=
  t.makeDirectories p.slashes room p.steps.reverse

/-- Puts a file at the end of a tidy path, with the directories above it. -/
def store (t : FileTree) (room : Nat) (p : Path) (content : FileContent) :
    Except Error Unit × FileTree :=
  match t.makePath room p.parent with
  | (.error e, t) => (.error e, t)
  | (.ok (), t) => t.putFile p content

end JavaFragments.FileTree
