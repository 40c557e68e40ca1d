import JavaFragments.Fragment.Call
import JavaFragments.Fragment.Lineage
import JavaFragments.OrderedMap
import JavaFragments.Record.Equality
import JavaFragments.Script.Op

/-! # Operations on records

`performRecord` carries out one operation on a shelf, which holds the records and the
labels given to them so far.  No session takes part.  Labels are resolved first, then the
operation is done. -/

namespace JavaFragments.Script

/-- The records, and the labels that they have been given. -/
structure Shelf where
  records : Records := {}
  labels : OrderedMap Label RecordId := .empty

/-- Something that is done with a shelf. -/
abbrev Handling (α : Type) := ExceptT Failure (StateM Shelf) α

namespace Handling

/-- What can be told of the shelf without changing it. -/
def look {α : Type} (f : Shelf → Except Failure α) : Handling α := ExceptT.mk fun s => (f s, s)

/-- What can be told of the records, unless that fails. -/
def told {α : Type} (f : Records → Except Fragment.Failure α) : Handling α := look fun s =>
  (f s.records).mapError .session

/-- Changes the records. -/
def amend (f : Records → Records) : Handling Unit := ExceptT.mk fun s =>
  (.ok (), { s with records := f s.records })

/-- Adds to the records. -/
def add {α : Type} (f : Records → α × Records) : Handling α := ExceptT.mk fun s =>
  let (a, records) := f s.records
  (.ok a, { s with records := records })

/-- Gives a label to a record, if there is one to give. -/
def label (label? : Option Label) (id : RecordId) : Handling Unit := ExceptT.mk fun s =>
  match label? with
  | some label => (.ok (), { s with labels := s.labels.put label id })
  | none => (.ok (), s)

end Handling

/-- The record under a label. -/
def recordOf (label : Label) : Handling RecordId := Handling.look fun s =>
  match s.labels.get? label with
  | some id => .ok id
  | none => .error (.noRecord label)

/-- The records under labels. -/
def recordsOf (labels : List Label) : Handling (List RecordId) := labels.mapM recordOf

/-- The record under a label, if there is a label. -/
def recordOf? : Option Label → Handling (Option RecordId)
  | none => return none
  | some label => do return some (← recordOf label)

/-- What is shown of a record. -/
def shown (id : RecordId) : Handling Answer := do
  return .record (← Handling.told fun r => Fragment.orMisuse (r.view id))

/-- Gives a label to a new record and shows it. -/
def introduced (label? : Option Label) (id : RecordId) : Handling Answer := do
  Handling.label label? id
  shown id

/-- A record after an assignment to a part of it, if that can be assigned to. -/
def Part.assign (d : Record) (v : Value) : Part → Except Misuse Record
  | name => .ok { d with name := v }
  | ofAttribute a => .ok (d.set a v)
  | parent => .ok { d with parent? := some (.value v) }
  | fields => .ok { d with fields := .ofValue v }
  | methods => .ok { d with methods := .ofValue v }
  | params => .ok { d with params := .ofValue v }
  | reserved a => .error (.reserved a (.record d.sort) v.type)
  | other => .ok d

/-- The record under a label, which has something in the place of an action. -/
def actorOf (a : ClassAction) (label : Label) : Handling RecordId := do
  let id ← recordOf label
  Handling.told fun r => Fragment.orMisuse ((r.get id).findAction a)
  return id

/-- Carries out an action of a record, unless a value is in the place of it. -/
def act {α : Type} (a : ClassAction) (id : RecordId) (f : Records → Except Fragment.Failure α) :
    Handling α := Handling.told fun r => do
  Fragment.orMisuse ((r.get id).checkAction a)
  f r

/-- Performs an operation on records. -/
def performRecord : RecordOp → Handling Answer
  | .addClass name parent? methodCount fieldCount label? => do
    let parent? ← recordOf? parent?
    let (c, extended) ← Handling.told fun r =>
      Fragment.buildClass r (.str name) parent? (.int methodCount) (.int fieldCount)
    Handling.amend fun _ => extended
    introduced label? c
  | .addMethod name returnType body params owner throws label? => do
    let params ← recordsOf params
    let m ← Handling.add (·.add
      (.ofMethod (.str name) returnType (.str body) (.ofIds params) (.str owner) (.bool throws)))
    introduced label? m
  | .addField name type initialValue label? => do
    let f ← Handling.add (·.add (.ofField (.str name) type (initialValue.elim .null .str)))
    introduced label? f
  | .addVar name type declared available label? => do
    let v ← Handling.add (·.add (.ofVar (.str name) type (.bool declared) (.bool available)))
    introduced label? v
  | .view label => do shown (← recordOf label)
  | .assign label part v => do
    let id ← recordOf label
    let d ← Handling.told fun r => Fragment.orMisuse (part.assign (r.get id) v)
    Handling.amend (·.modify id fun _ => d)
    return .done
  | .setParent label parent? => do
    let parent? ← recordOf? parent?
    let id ← recordOf label
    Handling.amend (·.setParent id parent?)
    return .done
  | .ancestors label => do
    let id ← actorOf .ancestors label
    return .names (← act .ancestors id (Fragment.ancestorNames · id))
  | .isRoot label => do
    let id ← actorOf .isRoot label
    return .truth (← act .isRoot id fun r => Fragment.orMisuse (r.isRoot id))
  | .attachField label field => do
    let id ← actorOf .attachField label
    let member ← recordOf field
    let attached ← act .attachField id fun r => Fragment.orMisuse (r.attachField id member)
    Handling.amend fun _ => attached
    shown member
  | .attachMethod label method => do
    let id ← actorOf .attachMethod label
    let member ← recordOf method
    act .attachMethod id fun _ => .ok ()
    -- the method gets its owner even if it cannot be attached
    Handling.amend (·.own id member)
    let attached ← Handling.told fun r => Fragment.orMisuse (r.attachMethod id member)
    Handling.amend fun _ => attached
    shown member
  | .same a b => do
    let a ← recordOf a
    let b ← recordOf b
    return .truth (← Handling.told fun r => Fragment.orMisuse (r.same a b))
  | .typePrefix target => do
    let id ← recordOf target
    return .text (← Handling.told fun r => Fragment.typePrefix (r.get id))
  | .argumentText args => do
    let ids ← recordsOf args
    return .text (← Handling.told fun r => Fragment.argumentText (ids.map r.nameOf))
  | .javaType type => do return .text (← Handling.told fun _ => Fragment.javaType type)

end JavaFragments.Script
