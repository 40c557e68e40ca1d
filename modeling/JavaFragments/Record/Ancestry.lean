import JavaFragments.Record.Equality

/-! # Ancestry

The ancestors of a class are its parent, the parent of that, and so on.  The walk ends
where there is no parent; it fails when it comes to the class itself or to a record that is
equal to one that it has passed, and names that record, or to something that has no place
for a parent.  As it passes no record twice, no walk is longer than there are records. -/

namespace JavaFragments

/-- Why a walk to the ancestors of a class fails. -/
inductive AncestryFault
  /-- The walk comes to a record that it has passed. -/
  | cycle (through : RecordId)
  /-- The walk comes to something without a place for a parent, or cannot compare records. -/
  | misuse (m : Misuse)

namespace Records

/-- Whether the walk from a class has passed a record: the class itself, if it is a record
    already, and those that it has come to, nearest first. -/
def hasPassed (r : Records) (self : Option RecordId) (passed : List RecordId) (id : RecordId) :
    Except Misuse Bool :=
  if self = some id then .ok true else passed.anyM (r.same · id)

/-- Walks up from a place, behind what it has passed so far. -/
def climb (r : Records) (self : Option RecordId) : (fuel : Nat) → (passed : List RecordId) →
    Slot → Except AncestryFault (List RecordId)
  | _, passed, .value .null => .ok passed
  | _, _, .value v => .error (.misuse (.noPart (.value v.type) parentKey))
  | 0, _, .record id => .error (.cycle id)
  | fuel + 1, passed, .record id =>
    match r.hasPassed self passed id, (r.get id).parent with
    | .error m, _ => .error (.misuse m)
    | .ok true, _ => .error (.cycle id)
    | .ok false, .error m => .error (.misuse m)
    | .ok false, .ok above => r.climb self fuel (passed ++ [id]) above

/-- A number of steps that no walk exceeds. -/
def climbLimit (r : Records) : Nat := r.all.size + 2

/-- The ancestors of a class, nearest first. -/
def ancestors (r : Records) (c : RecordId) : Except AncestryFault (List RecordId) :=
  match (r.get c).parent with
  | .error m => .error (.misuse m)
  | .ok above => r.climb (some c) r.climbLimit [] above

/-- The ancestors of a class that is yet to be added, by what is in the place of its
    parent. -/
def ancestorsBelow (r : Records) (above : Slot) : Except AncestryFault (List RecordId) :=
  r.climb none r.climbLimit [] above

end Records

end JavaFragments
