import JavaFragments.Value.Misuse

/-! # Places for records

A record is referred to by its `RecordId`.  A class has a parent, fields and methods, and a
method has parameters.  All of them are references to records, unless the caller assigns
another value in their place; an assigned list may hold any values.  The records may be of any
sort. -/

namespace JavaFragments

/-- Identifies a record. -/
structure RecordId where
  index : Nat
deriving DecidableEq, Repr

/-- What is in a place that a record belongs in. -/
inductive Slot
  /-- A reference to a record. -/
  | record (id : RecordId)
  /-- A value that the caller put there. -/
  | value (v : Value)

namespace Slot

/-- The name of what is in a place, by those of the records; of all values only kinds have
    one. -/
def name (nameOf : RecordId → Value) : Slot → Except Misuse Value
  | record id => .ok (nameOf id)
  | value (.kind k) => .ok (.str k.constant)
  | value v => .error (.noPart (.value v.type) "name")

end Slot

/-- The members of a record. -/
inductive Members
  | list (entries : List Slot)
  /-- A value that is no list. -/
  | value (v : Value)

namespace Members

/-- No members. -/
def empty : Members := list []

/-- The members with the given references. -/
def ofIds (ids : List RecordId) : Members := list (ids.map .record)

/-- The members that an assigned value stands for. -/
def ofValue : Value → Members
  | .list vs => list (vs.map .value)
  | v => value v

/-- The members with one more at the end. -/
def push (id : RecordId) : Members → Except Misuse Members
  | list entries => .ok (list (entries ++ [.record id]))
  | value v => .error (.noPart (.value v.type) "append")

/-- The names of the members, by those of the records. -/
def names (nameOf : RecordId → Value) : Members → Except Misuse (List Value)
  | list entries => entries.mapM (Slot.name nameOf)
  | value (.str s) => if s = "" then .ok [] else .error (.noPart (.value .str) "name")
  | value v => .error (.notIterable v.type)

/-- A member is put behind the others of a list. -/
@[simp] theorem push_list (id : RecordId) (entries : List Slot) :
    (list entries).push id = .ok (list (entries ++ [.record id])) := rfl

/-- References have the names of their records. -/
theorem names_ofIds (nameOf : RecordId → Value) (ids : List RecordId) :
    (ofIds ids).names nameOf = .ok (ids.map nameOf) := by
  simp only [names, ofIds, List.mapM_map]
  exact List.mapM_pure (m := Except Misuse)

end Members

end JavaFragments
