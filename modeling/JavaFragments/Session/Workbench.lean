import JavaFragments.Fragment.Literal
import JavaFragments.Session.Registry

/-! # What a session works with

A session counts the class names it has allocated and keeps a registry from names to
classes.  It works on a `Workbench`: its own state, the options and random source it
uses, the records, and the log.  An `Action` changes the workbench and may fail; what it
has changed before it fails stays changed. -/

namespace JavaFragments

open Fragment JavaFragments.Random

/-- The own state of a session. -/
structure Session where
  /-- The seed that the random source is started with, or null. -/
  seed : Value := .null
  /-- Name of the logger that gets the messages. -/
  logger : String := "javagen"
  /-- How many class names have been allocated. -/
  classCount : Nat := 0
  /-- The classes by name. -/
  registry : Registry := .empty

namespace Session

/-- How important a message is. -/
inductive Level
  | debug
  | info
  | warning
deriving DecidableEq, Repr

/-- The word for a level. -/
def Level.word : Level → String
  | debug => "DEBUG"
  | info => "INFO"
  | warning => "WARNING"

/-- A message in the log. -/
structure LogEntry where
  logger : String
  level : Level
  message : String
deriving DecidableEq, Repr

/-- A session with all it uses. -/
structure Workbench where
  session : Session
  settings : Settings
  source : Source
  records : Records
  /-- The messages, oldest first. -/
  log : List LogEntry := []

/-- Something that a session does. -/
abbrev Action (α : Type) := ExceptT Failure (StateM Workbench) α

namespace Action

/-- Draws from the random source of the session. -/
def draw {α : Type} (d : Settings → Draw α) : Action α := ExceptT.mk fun w =>
  let (r, source) := (d w.settings).run.run w.source
  (r, { w with source := source })

/-- What can be told of the workbench without changing it. -/
def look {α : Type} (f : Workbench → Except Failure α) : Action α := ExceptT.mk fun w =>
  (f w, w)

/-- Changes the workbench. -/
def change (f : Workbench → Workbench) : Action Unit := ExceptT.mk fun w => (.ok (), f w)

/-- Adds a message to the log. -/
def log (level : Level) (message : String) : Action Unit :=
  change fun w => { w with log := w.log ++ [⟨w.session.logger, level, message⟩] }

/-- Adds a message to the log, if it can be written. -/
def note (level : Level) (message : Except Number.TooLong String) : Action Unit :=
  match message with
  | .ok message => log level message
  | .error _ => change id

/-- What a value does, unless it does not do. -/
def orMisuse {α : Type} (r : Except Misuse α) : Action α := look fun _ => Fragment.orMisuse r

/-- Adds to the records. -/
def record {α : Type} (f : Records → α × Records) : Action α := ExceptT.mk fun w =>
  let (a, records) := f w.records
  (.ok a, { w with records := records })

/-- Changes the records. -/
def amend (f : Records → Records) : Action Unit :=
  change fun w => { w with records := f w.records }

/-! ## What comes of an action -/

/-- What comes of an action, and the workbench after it. -/
def result {α : Type} (a : Action α) (w : Workbench) : Except Failure α × Workbench := a.run.run w

/-- What is given is returned without a change. -/
@[simp] theorem result_pure {α : Type} (a : α) (w : Workbench) :
    (pure a : Action α).result w = (.ok a, w) := rfl

/-- What is looked up is returned or fails without a change. -/
@[simp] theorem result_look {α : Type} (f : Workbench → Except Failure α) (w : Workbench) :
    (look f).result w = (f w, w) := rfl

/-- A change does not fail. -/
@[simp] theorem result_change (f : Workbench → Workbench) (w : Workbench) :
    (change f).result w = (.ok (), f w) := rfl

/-- A draw changes the source of the session only. -/
@[simp] theorem result_draw {α : Type} (d : Settings → Draw α) (w : Workbench) :
    (draw d).result w =
      (((d w.settings).result w.source).1, { w with source := ((d w.settings).result w.source).2 }) :=
  rfl

/-- An action after another starts from the workbench that the first one leaves. -/
theorem result_bind {α β : Type} (a : Action α) (f : α → Action β) (w : Workbench) :
    (a >>= f).result w =
      match a.result w with
      | (.ok x, v) => (f x).result v
      | (.error e, v) => (.error e, v) := by
  unfold result ExceptT.run StateT.run
  simp only [bind, ExceptT.bind, ExceptT.mk, StateT.bind, ExceptT.bindCont]
  cases a w with
  | mk r v => cases r <;> rfl

end Action

end Session

end JavaFragments
