import JavaFragments.Record.Basic

/-! # Records to be shown

What is shown of a record: its name, the attributes of its sort, and the names of the
records it refers to. -/

namespace JavaFragments

/-- The contents of a record, with names for references. -/
inductive RecordView
  | ofClass (name : Value) (parent : Option Value) (fields methods : List Value)
      (methodCount fieldCount : Value)
  | ofMethod (name returnType body : Value) (params : List Value) (owner throws : Value)
  | ofField (name type initialValue : Value)
  | ofVar (name type declared available : Value)

/-- The name of what is in the place of a parent, if it is not null. -/
def Slot.parentName (nameOf : RecordId → Value) : Slot → Except Misuse (Option Value)
  | value .null => .ok none
  | what => some <$> what.name nameOf

/-- What is shown of a record. -/
def Records.view (r : Records) (id : RecordId) : Except Misuse RecordView := do
  let d := r.get id
  match d.sort with
  | .classDecl =>
    .ok (.ofClass d.name (← (← d.parent).parentName r.nameOf) (← d.fields.names r.nameOf)
      (← d.methods.names r.nameOf) (← d.get .methodCount) (← d.get .fieldCount))
  | .methodDecl =>
    .ok (.ofMethod d.name (← d.get .returnType) (← d.get .body) (← d.params.names r.nameOf)
      (← d.get .owner) (← d.get .throws))
  | .fieldDecl => .ok (.ofField d.name (← d.get .type) (← d.get .initialValue))
  | .localVar =>
    .ok (.ofVar d.name (← d.get .type) (← d.get .declared) (← d.get .available))

end JavaFragments
