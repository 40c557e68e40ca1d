import JavaFragments.Fragment.Failure
import JavaFragments.Record.Ancestry

/-! # Lines of classes

A class is added only if its line of ancestors ends. -/

namespace JavaFragments.Fragment

/-- The failure of a class that would be its own ancestor. -/
def ownAncestor (name through : Value) : Failure :=
  match written name, written through with
  | .ok a, .ok b => .ownAncestor a b
  | .error f, _ => f
  | _, .error f => f

/-- The failure of a walk to the ancestors of a class with the given name. -/
def lineFailure (r : Records) (name : Value) : AncestryFault → Failure
  | .cycle through => ownAncestor name (r.nameOf through)
  | .misuse m => .misuse m

/-- The names of the ancestors of a class. -/
def ancestorNames (r : Records) (c : RecordId) : Except Failure (List Value) :=
  match r.ancestors c with
  | .ok ids => .ok (ids.map r.nameOf)
  | .error fault => .error (lineFailure r (r.nameOf c) fault)

/-- Adds a class, unless its line of ancestors does not end. -/
def buildClass (r : Records) (name : Value) (parent? : Option RecordId)
    (methodCount fieldCount : Value) : Except Failure (RecordId × Records) :=
  let above := Records.place parent?
  match r.ancestorsBelow above with
  | .ok _ => .ok (r.add (.ofClass name above methodCount fieldCount))
  | .error fault => .error (lineFailure r name fault)

end JavaFragments.Fragment
