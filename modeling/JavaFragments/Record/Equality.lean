import JavaFragments.Record.Basic

/-! # Equality of records

Variables, fields and methods are equal if they are of one sort and their names and the
attributes of that sort are equal, the parameters of methods one by one.  A class is equal
to itself only.  Methods may be parameters of each other; how deep they are looked into is
limited.

* `same_self`      a record is equal to itself
* `same_of_class`  a class is equal to itself only -/

namespace JavaFragments

namespace RecordSort

/-- The attributes of a sort that are compared before the parameters. -/
def leading : RecordSort → List Attribute
  | classDecl => []
  | methodDecl => [.returnType, .body]
  | fieldDecl => [.type, .initialValue]
  | localVar => [.type, .declared, .available]

/-- The attributes of a sort that are compared after the parameters. -/
def trailing : RecordSort → List Attribute
  | methodDecl => [.owner, .throws]
  | _ => []

end RecordSort

namespace Record

/-- Whether an attribute of two records is equal. -/
def sameAttribute (d e : Record) (a : Attribute) : Bool :=
  match d.attributes.get? a, e.attributes.get? a with
  | some v, some w => v.same w
  | none, none => true
  | _, _ => false

/-- Whether attributes of two records are equal. -/
def sameAttributes (d e : Record) (as : List Attribute) : Bool := as.all (d.sameAttribute e)

end Record

/-- Whether what is in two places is equal, by whether records are. -/
def Slot.same (sameRecord : RecordId → RecordId → Except Misuse Bool) :
    Slot → Slot → Except Misuse Bool
  | record a, record b => sameRecord a b
  | value v, value w => .ok (v.same w)
  | _, _ => .ok false

namespace Members

/-- Whether two lists of places are equal one by one, by whether records are. -/
def sameEntries (sameRecord : RecordId → RecordId → Except Misuse Bool) :
    List Slot → List Slot → Except Misuse Bool
  | a :: as, b :: bs => do
    if ← a.same sameRecord b then sameEntries sameRecord as bs else .ok false
  | _, _ => .ok true

/-- Whether the members of two records are equal, by whether records are.  Lists of different
    lengths are not looked into. -/
def same (sameRecord : RecordId → RecordId → Except Misuse Bool) :
    Members → Members → Except Misuse Bool
  | list as, list bs =>
    if as.length = bs.length then sameEntries sameRecord as bs else .ok false
  | value v, value w => .ok (v.same w)
  | _, _ => .ok false

end Members

namespace Records

/-- How deep records are looked into.  At most 1000 calls may be open at a time, and each level
    of parameters takes four of them: one for the methods, one for what is compared of them, one
    for their parameters and one for each parameter.  The number is what is left of them to a
    caller that has eight calls open itself; a caller with more of them open has less room, and
    nothing that is proved here depends on how much it is. -/
def maxNesting : Nat := 248

/-- Whether two records are equal, looking at most `depth` records deep. -/
def sameWithin (r : Records) : (depth : Nat) → RecordId → RecordId → Except Misuse Bool
  | 0, a, b => if a = b then .ok true else .error .tooNested
  | depth + 1, a, b =>
    let d := r.get a
    let e := r.get b
    if a = b then .ok true
    else if d.sort ≠ e.sort ∨ d.sort = .classDecl then .ok false
    else if !(d.name.same e.name && d.sameAttributes e d.sort.leading) then .ok false
    else if d.sort ≠ .methodDecl then .ok true
    else do
      if ← d.params.same (r.sameWithin depth) e.params then
        .ok (d.sameAttributes e d.sort.trailing)
      else .ok false

/-- Whether two records are equal. -/
def same (r : Records) (a b : RecordId) : Except Misuse Bool := r.sameWithin maxNesting a b

/-- A record is equal to itself. -/
theorem same_self (r : Records) (a : RecordId) : r.same a a = .ok true := by
  simp [same, maxNesting, sameWithin]

/-- A class is equal to itself only. -/
theorem same_of_class (r : Records) {a b : RecordId} (h : (r.get a).sort = .classDecl) :
    r.same a b = .ok (decide (a = b)) := by
  by_cases hab : a = b
  · simp [hab, same_self]
  · simp [same, maxNesting, sameWithin, hab, h]

end Records

end JavaFragments
