import JavaFragments.OrderedMap
import JavaFragments.Text.Utf8

/-! # Nodes of a file tree

A `Node` is a file, or a directory of nodes under names.  `get?` looks up what is at the
end of a list of names, `put` changes it:

* `child?_putChild`  what is in a directory after something was put there
* `get?_put_self`    what was put at the end of names is found there, unless a file is on
  the way -/

namespace JavaFragments

/-- What a file holds: a text, or bytes that need not be one. -/
inductive FileContent
  | text (s : String)
  | bytes (bs : List Nat)
deriving DecidableEq, Repr

/-- The text that a file holds. -/
def FileContent.read : FileContent → Except Text.Utf8.Fault String
  | text s => .ok s
  | bytes bs => String.ofList <$> Text.Utf8.decode bs

/-- A file, or a directory with what is in it. -/
inductive Node
  | file (content : FileContent)
  | directory (entries : List (String × Node))

namespace Node

/-- A directory with nothing in it. -/
def vacant : Node := directory []

/-- Whether a node is a directory. -/
def isDirectory : Node → Bool
  | directory _ => true
  | file _ => false

/-- What a file holds. -/
def content? : Node → Option FileContent
  | file c => some c
  | directory _ => none

/-- What is under a name in a directory. -/
def child? : Node → String → Option Node
  | file _, _ => none
  | directory entries, name => OrderedMap.find? name entries

/-- Puts a node under a name into a directory. -/
def putChild : Node → String → Node → Node
  | file c, _, _ => file c
  | directory entries, name, new => directory (OrderedMap.putEntry name new entries)

/-- What is at the end of names. -/
def get? : Node → List String → Option Node
  | n, [] => some n
  | n, name :: names =>
    match n.child? name with
    | some c => c.get? names
    | none => none

/-- Puts a node at the end of names.  What is missing on the way becomes a directory. -/
def put : Node → List String → Node → Node
  | _, [], new => new
  | n, name :: names, new => n.putChild name (((n.child? name).getD vacant).put names new)

/-- Whether no file is on the way along names. -/
def isOpen : Node → List String → Bool
  | _, [] => true
  | n, name :: names => n.isDirectory && ((n.child? name).getD vacant).isOpen names

/-- What is in a directory after something was put there. -/
theorem child?_putChild {n : Node} (h : n.isDirectory = true) (name name' : String) (new : Node) :
    (n.putChild name new).child? name' = if name = name' then some new else n.child? name' := by
  cases n with
  | file c => cases h
  | directory entries => exact OrderedMap.find?_putEntry name name' new entries

/-- What was put at the end of names is found there, unless a file is on the way. -/
theorem get?_put_self {n : Node} {names : List String} (h : n.isOpen names = true) (new : Node) :
    (n.put names new).get? names = some new := by
  induction names generalizing n with
  | nil => rfl
  | cons name names ih =>
    simp only [isOpen, Bool.and_eq_true] at h
    simp only [put, get?, child?_putChild h.1, if_pos, ih h.2]

/-! ## All files -/

mutual

/-- The files from a node on with their paths; `path` is that of the node. -/
def files (path : String) : Node → List (String × FileContent)
  | file c => [(path, c)]
  | directory entries => filesOf path entries

/-- The files from the entries of a directory on with their paths. -/
def filesOf (path : String) : List (String × Node) → List (String × FileContent)
  | [] => []
  | (name, n) :: entries => n.files (path ++ "/" ++ name) ++ filesOf path entries

end

end Node

end JavaFragments
