import JavaFragments.Fragment.Statement
import JavaFragments.Script.Handle
import JavaFragments.Session.Lifecycle

/-! # Performing operations

`perform` carries out one operation on a workbench and the labels given so far.  Labels
are resolved first, then the operation of the session is done. -/

namespace JavaFragments.Script

open Fragment Session

/-- A workbench, and the labels that its records have been given. -/
structure Scene where
  bench : Workbench
  labels : OrderedMap Label RecordId := .empty

namespace Scene

/-- The records of a scene with their labels. -/
def shelf (s : Scene) : Shelf := ⟨s.bench.records, s.labels⟩

/-- The scene with other records. -/
def withShelf (s : Scene) (shelf : Shelf) : Scene :=
  { bench := { s.bench with records := shelf.records }, labels := shelf.labels }

end Scene

/-- Something that a script does. -/
abbrev Run (α : Type) := ExceptT Failure (StateM Scene) α

namespace Run

/-- Does something on the workbench. -/
def act {α : Type} (a : Action α) : Run α := ExceptT.mk fun s =>
  let (r, bench) := a.run.run s.bench
  (r.mapError .session, { s with bench := bench })

/-- Does something with the records. -/
def handle {α : Type} (h : Handling α) : Run α := ExceptT.mk fun s =>
  let (r, shelf) := h.run.run s.shelf
  (r, s.withShelf shelf)

/-- What can be told of the workbench, unless that fails. -/
def told {α : Type} (f : Workbench → Except Fragment.Failure α) : Run α := act (Action.look f)

end Run

instance : MonadLift Handling (ExceptT Failure (StateM Scene)) := ⟨Run.handle⟩

/-- The class that an operation refers to. -/
def classRef : ClassArg → Run ClassRef
  | .labelled label => do return .record (← recordOf label)
  | .named v => return .named v

/-- The workbench. -/
def workbench : Run Workbench := Run.told .ok

/-- A text that may fail to be written. -/
def answerText (f : Workbench → Except Fragment.Failure String) : Run Answer := do
  return .text (← Run.told f)

/-- A value that is answered, unless it is too long to be shown. -/
def showable (v : Value) : Except Fragment.Failure Value :=
  match v.describe with
  | .ok _ => .ok v
  | .error e => .error (.tooLong e)

/-- What is shown of the classes of a registry. -/
def registryView (w : Workbench) : Except Fragment.Failure (List (Value × RecordView)) :=
  w.session.registry.entries.mapM fun e => do
    .ok (e.2.name, ← orMisuse (w.records.view e.2.record))

/-- Performs an operation of a session. -/
def performSession : SessionOp → Run Answer
  | .reset => do
    Run.act Session.reset
    return .done
  | .dump => do
    let seed ← Run.told fun w => showable w.session.seed
    let classes ← Run.told registryView
    return .registry seed (← workbench).session.classCount classes
  | .setOption target v => do
    let settings ← Run.told fun w => orMisuse (target.assignSettings v w.settings)
    Run.act (Action.change fun w => { w with settings := settings })
    return .done
  | .options => do
    match (← workbench).settings.listing with
    | .ok listing => return .options listing
    | .error e => throw (.session (.tooLong e))
  | .random => do return .float (← Run.act (Action.draw fun _ => Draw.random))
  | .draws => do return .count (← workbench).source.draws
  | .nextClassName => do return .text (← Run.act Session.nextClassName)
  | .newClass parent? label? => do
    let parent ← recordOf? parent?
    let c ← Run.act (Session.newClass parent)
    introduced label? c
  | .registerClass label => do
    let id ← recordOf label
    Run.act (Session.registerClass id)
    shown id
  | .getClass arg label? => do
    let ref ← classRef arg
    let id ← Run.act (Session.getClass ref)
    introduced label? id
  | .nextMethodName arg => do
    let ref ← classRef arg
    return .text (← Run.act (Session.nextMethodName ref))
  | .nextFieldName arg => do
    let ref ← classRef arg
    return .text (← Run.act (Session.nextFieldName ref))
  | .nextVarName methodName => do return .text (← Run.act (Session.nextVarName methodName))
  | .randomType allowVoid => do return .kind (← Run.act (Action.draw (drawKind · allowVoid)))
  | .literal type => do return .text (← Run.act (Action.draw (drawValue · type)))
  | .classDeclaration name parent? => do
    let parent ← recordOf? parent?
    answerText fun w => Fragment.classDeclaration name (parent.map w.records.nameOf)
  | .methodDeclaration method declareThrows => do
    let id ← recordOf method
    answerText fun w => Fragment.methodDeclaration w.settings (w.records.get id) declareThrows
  | .fieldDeclaration field => do
    let id ← recordOf field
    answerText fun w => Fragment.fieldDeclaration (w.records.get id)
  | .variableDeclaration target => do
    let id ← recordOf target
    let d := (← workbench).records.get id
    return .text (← Run.act (Action.draw (Fragment.variableDeclaration · d)))
  | .openBlock => return .text Fragment.openBlock
  | .closeBlock => return .text Fragment.closeBlock
  | .semicolon => return .text Fragment.semicolon
  | .elseStatement => return .text Fragment.elseStatement
  | .ifStatement condition => return .text (Fragment.ifStatement condition)
  | .forStatement target bound start => do
    let id ← recordOf target
    answerText fun w => Fragment.forStatement (w.records.get id) bound start
  | .defaultReturn type => do
    return .text (← Run.act (Action.draw (Fragment.defaultReturn · type)))
  | .throwStatement exception? message? =>
    answerText fun w => Fragment.throwStatement w.settings exception? message?
  | .assignment method target args => do
    let m ← recordOf method
    let target ← recordOf target
    let args ← recordsOf args
    answerText fun w => Fragment.assignment (w.records.get m) (w.records.get target)
      (args.map w.records.nameOf)
  | .methodCall method target args => do
    let target ← recordOf target
    let m ← recordOf method
    let args ← recordsOf args
    let site ← Run.act (Session.methodCall m target args)
    return .call site (← Run.act (Session.valueOf target .available))

/-- Performs an operation. -/
def perform : Op → Run Answer
  | .record op => Run.handle (performRecord op)
  | .session op => performSession op

/-- Performs operations one after the other, also after failures, and collects what they
    answer. -/
def performAll : List Op → Scene → List (Except Failure Answer) × Scene
  | [], s => ([], s)
  | op :: ops, s =>
    let (answer, s) := (perform op).run.run s
    let (answers, s) := performAll ops s
    (answer :: answers, s)

end JavaFragments.Script
