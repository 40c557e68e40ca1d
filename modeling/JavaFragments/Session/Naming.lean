import JavaFragments.Fragment.Lineage
import JavaFragments.Session.Workbench
import JavaFragments.Text.LowerCase
import JavaFragments.Value.Order

/-! # Naming of classes and members

Class names are numbered by the session, method and field names by their class.  An
allocated class name is registered with a record of its own at once, so that members can
be named by the name of their class alone.  A record that takes over a name takes over
the numbers already used under that name. -/

namespace JavaFragments.Session

open Fragment

/-- A class as the caller refers to it: by its record, or by a value that should be a name. -/
inductive ClassRef
  | record (id : RecordId)
  | named (v : Value)

/-- The class name with the given number. -/
def classNameOf (n : Nat) : String := s!"Class_{n}"

/-- Allocates a class name and registers a class without contents under it. -/
def nextClassName : Action String := do
  let name ← Action.look fun w => .ok (classNameOf w.session.classCount)
  let c ← Action.record (·.add (.ofClass (.str name) (.value .null) (.int 0) (.int 0)))
  Action.change fun w => { w with
    session := { w.session with
      classCount := w.session.classCount + 1
      registry := w.session.registry.enter (.str name) (.str name) c } }
  Action.log .debug s!"Allocate class name {name}"
  return name

/-- The value of an attribute of a record. -/
def valueOf (id : RecordId) (a : Attribute) : Action Value :=
  Action.look fun w => orMisuse ((w.records.get id).get a)

/-- A record takes over a number of another where that is larger. -/
def takeOver (id other : RecordId) (a : Attribute) : Action Unit := do
  let own ← valueOf id a
  let known ← valueOf other a
  let number ← Action.orMisuse (own.larger known)
  Action.amend (·.assign id a number)

/-- The key of a value. -/
def keyOf (v : Value) : Except Failure Key :=
  match v.key? with
  | some key => .ok key
  | none => .error (.misuse (.notAKey (.value v.type)))

/-- Registers a class under its name.  It takes over the numbers of what is registered under
    that name already. -/
def registerClass (id : RecordId) : Action Unit := do
  let name ← Action.look fun w => .ok (w.records.nameOf id)
  let key ← Action.look fun _ => keyOf name
  let known? ← Action.look fun w => .ok (w.session.registry.find? key)
  match known? with
  | some known =>
    if known ≠ id then
      takeOver id known .methodCount
      takeOver id known .fieldCount
  | none => pure ()
  Action.change fun w => { w with
    session := { w.session with registry := w.session.registry.enter name key id } }

/-- Allocates a class name and registers a new class with the given parent under it. -/
def newClass (parent? : Option RecordId) : Action RecordId := do
  -- the name stays allocated when the class is refused
  let name ← nextClassName
  let (c, records) ← Action.look fun w =>
    buildClass w.records (.str name) parent? (.int 0) (.int 0)
  Action.amend fun _ => records
  registerClass c
  return c

/-- What is registered under a name. -/
def findClass (s : Session) (v : Value) : Except Failure RecordId := do
  match s.registry.find? (← keyOf v) with
  | some id => .ok id
  | none => refuse v .unknownClass

/-- The class that the caller refers to; no other record is a name to look up. -/
def resolve (w : Workbench) : ClassRef → Except Failure RecordId
  | .record id =>
    match (w.records.get id).sort with
    | .classDecl => .ok id
    | sort => .error (.misuse (.notAKey (.record sort)))
  | .named v => findClass w.session v

/-- The class that the caller refers to. -/
def getClass (ref : ClassRef) : Action RecordId := Action.look (resolve · ref)

/-- A name in lower case; only a text has one. -/
def lowered : Value → Except Misuse String
  | .str s => .ok (Text.lower s)
  | v => .error (.noPart (.value v.type) "lower")

/-- The name of a member: its class in lower case, what it is, and its number. -/
def memberName (className sort : String) (number : Value) : Except Failure String := do
  .ok s!"{className}_{sort}_{← written number}"

/-- Allocates the name of a member by the number that is kept in an attribute of its class. -/
def nextMemberName (ref : ClassRef) (sort : String) (a : Attribute) : Action String := do
  let id ← getClass ref
  let className ← Action.look fun w => orMisuse (lowered (w.records.nameOf id))
  let number ← valueOf id a
  let name ← Action.look fun _ => memberName className sort number
  let next ← Action.orMisuse (number.next .inPlace)
  Action.amend (·.assign id a next)
  return name

/-- Allocates a method name. -/
def nextMethodName (ref : ClassRef) : Action String := nextMemberName ref "method" .methodCount

/-- Allocates a field name. -/
def nextFieldName (ref : ClassRef) : Action String := nextMemberName ref "field" .fieldCount

/-- Allocates a name for a local variable of a method. -/
def nextVarName (methodName : String) : Action String := Action.draw (drawVarName · methodName)

end JavaFragments.Session
