/-! # Paths

A path is a text with names between slashes.  It is kept as it is written, so that its
text can be shown again. -/

namespace JavaFragments

/-- The pieces of a text between slashes. -/
def segments : List Char → List (List Char)
  | [] => [[]]
  | '/' :: s => [] :: segments s
  | c :: s =>
    match segments s with
    | [] => [[c]]
    | seg :: segs => (c :: seg) :: segs

/-- A path: the slashes that it begins with, and the names between the slashes that follow.
    A name is empty where slashes stand in a row or at the end. -/
structure Path where
  slashes : Nat
  steps : List String
deriving DecidableEq, Repr

namespace Path

/-- The path that a text denotes. -/
def ofText (s : String) : Path where
  slashes := (s.toList.takeWhile (· = '/')).length
  steps :=
    match s.toList.dropWhile (· = '/') with
    | [] => []
    | rest => (segments rest).map String.ofList

/-- The text of a path. -/
def text (p : Path) : String :=
  String.ofList (List.replicate p.slashes '/') ++ String.intercalate "/" p.steps

/-- The path without steps that stay in place, of which one is left if there is no other.
    Two slashes at the start remain, more are one. -/
def tidy (p : Path) : Path :=
  let slashes := if p.slashes = 2 then 2 else min p.slashes 1
  let steps := p.steps.filter fun s => s ≠ "" ∧ s ≠ "."
  ⟨slashes, if slashes = 0 ∧ steps = [] then ["."] else steps⟩

/-- The path without its last step. -/
def parent (p : Path) : Path := { p with steps := p.steps.dropLast }

/-- The path without slashes at its end. -/
def trimmed (p : Path) : Path :=
  { p with steps := (p.steps.reverse.dropWhile (· = "")).reverse }

end Path

end JavaFragments
