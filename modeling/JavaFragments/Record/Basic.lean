import JavaFragments.OrderedMap
import JavaFragments.Record.Attribute
import JavaFragments.Record.Members

/-! # Records of generated code

The caller and the generator share records of classes, methods, fields and local
variables.  Records refer to each other by identifiers, so that a change to a record is
seen wherever it is referred to; `Records` holds them all.

A record starts with the attributes of its sort, and any other may be assigned to it.
What asks a record for something does not look at its sort but at its attributes, so where
one sort is meant a record of another sort does as well, as far as it has what it is asked
for.  An attribute holds whatever value the caller assigns to it, and is refused only where
the value does not do.

* `get_set`                          an attribute after one was assigned
* `get_add_self`, `get_add_of_lt`    a record after one was added
* `get_modify_self`, `get_modify_ne` a record after one was changed -/

namespace JavaFragments

/-- A class, method, field or local variable. -/
structure Record where
  sort : RecordSort
  name : Value
  /-- The attributes that it has. -/
  attributes : OrderedMap Attribute Value := .empty
  /-- What is in the place of its parent, if it has such a place; null is no parent. -/
  parent? : Option Slot := none
  /-- The fields of a class. -/
  fields : Members := .empty
  /-- The methods of a class. -/
  methods : Members := .empty
  /-- The parameters of a method. -/
  params : Members := .empty

namespace Record

/-- A class with its parent and the numbers that its next members get. -/
def ofClass (name : Value) (parent : Slot) (methodCount fieldCount : Value) : Record where
  sort := .classDecl
  name
  parent? := some parent
  attributes := .ofList [(.methodCount, methodCount), (.fieldCount, fieldCount)]

/-- A method that belongs to the class with the name `owner`. -/
def ofMethod (name returnType body : Value) (params : Members) (owner throws : Value) :
    Record where
  sort := .methodDecl
  name
  params
  attributes := .ofList
    [(.returnType, returnType), (.body, body), (.owner, owner), (.throws, throws)]

/-- A field with its initial value, or null. -/
def ofField (name type initialValue : Value) : Record where
  sort := .fieldDecl
  name
  attributes := .ofList [(.type, type), (.initialValue, initialValue)]

/-- A local variable. -/
def ofVar (name type declared available : Value) : Record where
  sort := .localVar
  name
  attributes := .ofList [(.type, type), (.declared, declared), (.available, available)]

/-- The value of an attribute, which the record must have. -/
def get (d : Record) (a : Attribute) : Except Misuse Value :=
  match d.attributes.get? a with
  | some v => .ok v
  | none => .error (.noPart (.record d.sort) a.key)

/-- The record with a value for an attribute. -/
def set (d : Record) (a : Attribute) (v : Value) : Record :=
  { d with attributes := d.attributes.put a v }

/-- An attribute after one was assigned. -/
theorem get_set (d : Record) (a b : Attribute) (v : Value) :
    (d.set a v).get b = if a = b then .ok v else d.get b := by
  by_cases h : a = b <;> simp [get, set, OrderedMap.get?_put, h]

/-- What is in the place of the parent, which the record must have. -/
def parent (d : Record) : Except Misuse Slot :=
  match d.parent? with
  | some what => .ok what
  | none => .error (.noPart (.record d.sort) parentKey)

/-! ## Actions

Only classes can do anything.  A value in the place of an action is found there, but cannot
be carried out. -/

/-- Refuses a record that has nothing in the place of an action. -/
def findAction (d : Record) (a : ClassAction) : Except Misuse Unit :=
  if d.sort = .classDecl then .ok () else discard (d.get (.action a))

/-- Refuses a record with a value in the place of an action. -/
def checkAction (d : Record) (a : ClassAction) : Except Misuse Unit :=
  match d.attributes.get? (.action a) with
  | none => .ok ()
  | some v => .error (.notAnAction v.type)

/-- An action is refused as soon as a value is in its place, and no other one is. -/
theorem checkAction_set (d : Record) (a b : ClassAction) (v : Value) :
    (d.set (.action a) v).checkAction b =
      if a = b then .error (.notAnAction v.type) else d.checkAction b := by
  by_cases h : a = b <;> simp [checkAction, set, OrderedMap.get?_put, h]

end Record

/-- All records. -/
structure Records where
  all : Array Record := #[]

namespace Records

/-- No records. -/
def empty : Records := {}

/-- The record with the given identifier.  A variable without name and attributes stands for
    one that is not there. -/
def get (r : Records) (id : RecordId) : Record :=
  r.all.getD id.index { sort := .localVar, name := .str "" }

/-- The name of a record. -/
def nameOf (r : Records) (id : RecordId) : Value := (r.get id).name

/-- Adds a record. -/
def add (r : Records) (d : Record) : RecordId × Records := (⟨r.all.size⟩, ⟨r.all.push d⟩)

/-- Whether a record has no parent. -/
def isRoot (r : Records) (id : RecordId) : Except Misuse Bool :=
  match (r.get id).parent with
  | .ok (.value .null) => .ok true
  | .ok _ => .ok false
  | .error m => .error m

/-- Changes a record. -/
def modify (r : Records) (id : RecordId) (f : Record → Record) : Records :=
  ⟨r.all.modify id.index f⟩

/-- The records with a value for an attribute of one of them. -/
def assign (r : Records) (id : RecordId) (a : Attribute) (v : Value) : Records :=
  r.modify id (·.set a v)

/-- Gives a record to a class, as its last field. -/
def attachField (r : Records) (c id : RecordId) : Except Misuse Records := do
  let fields ← (r.get c).fields.push id
  .ok (r.modify c fun d => { d with fields })

/-- Notes a class as the owner of a method. -/
def own (r : Records) (c id : RecordId) : Records := r.assign id .owner (r.nameOf c)

/-- Gives a record to a class, as its last method. -/
def attachMethod (r : Records) (c id : RecordId) : Except Misuse Records := do
  let methods ← (r.get c).methods.push id
  .ok (r.modify c fun d => { d with methods })

/-- The place of a record, or of none. -/
def place : Option RecordId → Slot
  | some id => .record id
  | none => .value .null

/-- Makes one record the parent of another, or none. -/
def setParent (r : Records) (id : RecordId) (parent : Option RecordId) : Records :=
  r.modify id fun d => { d with parent? := some (place parent) }

/-! ## What operations do to the records

A new record changes no other one, and a change of a record changes only that one. -/

/-- Beyond the records there is nothing but a variable without name and attributes. -/
theorem get_of_le {r : Records} {id : RecordId} (h : r.all.size ≤ id.index) :
    r.get id = { sort := .localVar, name := .str "" } := by
  rw [get, Array.getD_eq_getD_getElem?, Array.getElem?_eq_none h]
  rfl

/-- A record that was added is found under its identifier. -/
theorem get_add_self (r : Records) (d : Record) : (r.add d).2.get (r.add d).1 = d := by
  simp [add, get]

/-- Adding a record changes no other record. -/
theorem get_add_of_lt (r : Records) (d : Record) {id : RecordId} (h : id.index < r.all.size) :
    (r.add d).2.get id = r.get id := by
  have hne : id.index ≠ r.all.size := Nat.ne_of_lt h
  simp [add, get, Array.getD_eq_getD_getElem?, Array.getElem?_push, hne]

/-- Changing a record changes no other record. -/
theorem get_modify_ne (r : Records) (f : Record → Record) {id other : RecordId}
    (h : id ≠ other) : (r.modify id f).get other = r.get other := by
  have hne : id.index ≠ other.index := fun e => h (by cases id; cases other; exact congrArg _ e)
  simp [modify, get, Array.getD_eq_getD_getElem?, Array.getElem?_modify, hne]

/-- A record after it was changed. -/
theorem get_modify_self (r : Records) (f : Record → Record) {id : RecordId}
    (h : id.index < r.all.size) : (r.modify id f).get id = f (r.get id) := by
  simp only [modify, get, Array.getD_eq_getD_getElem?, Array.getElem?_modify, if_pos]
  simp [h]

/-- A new record has the last place, and no other place changes. -/
theorem get_add_cases (r : Records) (d : Record) (id : RecordId) :
    (id.index = r.all.size ∧ (r.add d).2.get id = d) ∨ (r.add d).2.get id = r.get id := by
  by_cases hid : id.index = r.all.size
  · refine .inl ⟨hid, ?_⟩
    simp [add, get, hid]
  · refine .inr ?_
    simp [add, get, Array.getD_eq_getD_getElem?, Array.getElem?_push, hid]

/-- What is found after a record was changed is the changed record or what was there. -/
theorem get_modify_cases (r : Records) (f : Record → Record) (id other : RecordId) :
    (r.modify id f).get other = f (r.get other) ∨ (r.modify id f).get other = r.get other := by
  by_cases heq : id = other
  · subst heq
    by_cases hlt : id.index < r.all.size
    · exact .inl (get_modify_self r f hlt)
    · -- there is no such record before or after
      have hle : r.all.size ≤ id.index := Nat.le_of_not_lt hlt
      have hsize : (r.modify id f).all.size = r.all.size := Array.size_modify
      rw [get_of_le hle, get_of_le (hsize ▸ hle)]
      exact .inr rfl
  · exact .inr (get_modify_ne r f heq)

/-- An assignment to a record changes no other record. -/
theorem get_assign_ne (r : Records) {id other : RecordId} (h : id ≠ other) (a : Attribute)
    (v : Value) : (r.assign id a v).get other = r.get other :=
  get_modify_ne r _ h

/-- No record comes or goes when one is modified. -/
@[simp] theorem size_modify (r : Records) (id : RecordId) (f : Record → Record) :
    (r.modify id f).all.size = r.all.size := by
  simp [modify]

end Records

end JavaFragments
