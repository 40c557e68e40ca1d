import JavaFragments.FileTree.Node
import JavaFragments.FileTree.Path

/-! # Trees of files

The files and directories around a working directory.  All of them are plain files and
directories that may be read, entered and written: the tree has no links, no devices and no
permissions, and it is never full.  A path is walked step by step; every place it passes must
be a directory, and names are of limited length.  A place is known by its `Trail`, the names
from the working directory down with what is there.  The places above the working directory
and the root are directories from the start.

* `leave_enter`  a place is in the directory that it was entered from -/

namespace JavaFragments

/-- The way to a place: the names on it, the last first, each with what is there.  A step up
    from the working directory has the name `..`, the root of the file system `/`. -/
abbrev Trail := List (String × Option Node)

namespace Trail

/-- The names on the way to a place. -/
def names (w : Trail) : List String := (w.map Prod.fst).reverse

/-- Whether a place is the working directory or above it. -/
def isAbove (w : Trail) : Bool := w.all (·.1 = "..")

/-- Whether a place is the root. -/
def isRoot (w : Trail) : Bool := w.map Prod.fst = ["/"]

end Trail

/-- A tree of files, as what is in its working directory. -/
structure FileTree where
  top : Node := .vacant

/-- Longest name of a file or directory, in bytes. -/
def maxNameBytes : Nat := 255

/-- Longest path, in bytes. -/
def maxPathBytes : Nat := 4095

namespace FileTree

/-- Why a path leads nowhere. -/
inductive Obstacle
  /-- Something on the way is missing. -/
  | missing
  /-- Something on the way is a file. -/
  | notADirectory
  /-- A name on the way, or the path itself, is too long. -/
  | tooLong
  /-- A name holds the character that ends names. -/
  | nullByte
deriving DecidableEq, Repr

/-- The tree with nothing in it. -/
def empty : FileTree := {}

/-! ## Places -/

/-- What is at a place. -/
def here (t : FileTree) : Trail → Option Node
  | [] => some t.top
  | (_, n?) :: _ => n?

/-- What is under a name at a place. -/
def below (t : FileTree) (w : Trail) (name : String) : Option Node := do (← t.here w).child? name

/-- The place of a name. -/
def enter (t : FileTree) (w : Trail) (name : String) : Trail := (name, t.below w name) :: w

/-- The place of a name that is a directory from the start. -/
def enterGiven (t : FileTree) (w : Trail) (name : String) : Trail :=
  (name, some ((t.below w name).getD .vacant)) :: w

/-- The place above a place; the root is above itself. -/
def leave (t : FileTree) (w : Trail) : Trail :=
  if w.isAbove then t.enterGiven w ".." else if w.isRoot then w else w.tail

/-- A place is in the directory that it was entered from. -/
theorem leave_enter (t : FileTree) (w : Trail) {name : String} (h : name ≠ "..")
    (h' : name ≠ "/") : t.leave (t.enter w name) = w := by
  simp [leave, enter, Trail.isAbove, Trail.isRoot, h, h']

/-- Whether a directory is at a place. -/
def isDirectory (t : FileTree) (w : Trail) : Bool := (t.here w).any (·.isDirectory)

/-- Whether there is something at a place. -/
def isPresent (t : FileTree) (w : Trail) : Bool := (t.here w).isSome

/-- The tree with a node at a place. -/
def put (t : FileTree) (w : Trail) (n : Node) : FileTree := ⟨t.top.put w.names n⟩

/-! ## Paths -/

/-- Whether a name is too long. -/
def isTooLong (name : String) : Bool := maxNameBytes < name.utf8ByteSize

/-- Whether names can be looked up at all. -/
def isNullFree (names : List String) : Bool := names.all fun name => !name.contains '\x00'

/-- The place that steps lead to, if every place on the way is a directory. -/
def walk (t : FileTree) : Trail → List String → Except Obstacle Trail
  | w, [] => .ok w
  | w, step :: steps =>
    -- no step leads anywhere from a file or from nothing
    if !t.isDirectory w then .error (if t.isPresent w then .notADirectory else .missing)
    else if isTooLong step then .error .tooLong
    else if step = "" ∨ step = "." then t.walk w steps
    else if step = ".." then t.walk (t.leave w) steps
    else t.walk (t.enter w step) steps

/-- The place that a path starts from. -/
def start (t : FileTree) (p : Path) : Trail := if p.slashes = 0 then [] else t.enterGiven [] "/"

/-- The place that a path leads to; an empty path leads nowhere. -/
def locate (t : FileTree) (p : Path) : Except Obstacle Trail :=
  if !isNullFree p.steps then .error .nullByte
  else if maxPathBytes < p.text.utf8ByteSize then .error .tooLong
  else if p = ⟨0, []⟩ then .error .missing
  else t.walk (t.start p) p.steps

/-- Whether a path leads to something. -/
def reaches (t : FileTree) (p : Path) : Bool :=
  match t.locate p with
  | .ok w => t.isPresent w
  | .error _ => false

/-- What the file at the end of a path holds. -/
def read? (t : FileTree) (p : Path) : Option FileContent :=
  match t.locate p with
  | .ok w => (t.here w).bind (·.content?)
  | .error _ => none

/-! ## All files -/

/-- Whether a name leads out of the working directory. -/
def isOutward (name : String) : Bool := name = ".." || name = "/"

/-- The entries of the working directory, but for those that lead out of it. -/
def inward (t : FileTree) : List (String × Node) :=
  match t.top with
  | .file _ => []
  | .directory entries => entries.filter fun e => !isOutward e.1

/-- The files below the working directory with their paths, in the order of the paths. -/
def listing (t : FileTree) : List (String × FileContent) :=
  (t.inward.flatMap fun e => e.2.files e.1).mergeSort fun a b => a.1 ≤ b.1

/-- The files below the working directory with their paths and texts, in the order of the
    paths. -/
def texts (t : FileTree) : Except Text.Utf8.Fault (List (String × String)) :=
  t.listing.mapM fun e => do .ok (e.1, ← e.2.read)

end FileTree

end JavaFragments
