import JavaFragments.Proofs.Naming.Counting

/-! # Runs of naming

`NamingOp` are the operations that concern class names and the members of classes: those of
a session, and those of a caller who makes classes and gives them parents.  A `NamingRun` is
made of operations that are `Allowed` where they are done, in any order, and collects the
names that they issue.  An operation may fail; then it issues nothing, and the run goes on
from what it has left.

* `result_nextClassName`   what the allocation of a class name does
* `result_newClass`        what a new class does, after its name was allocated
* `result_nextNameOf`      what the allocation of the name of a member does
* `findClass_str`          what a text refers to -/

namespace JavaFragments.Session

open Fragment

/-- An operation that allocates a name, or that concerns the classes that names are for. -/
inductive NamingOp
  | className
  | newClass (parent? : Option RecordId)
  /-- The caller makes a class with numbers of its own choice. -/
  | construct (name : String) (parent? : Option RecordId) (methodCount fieldCount : Int)
  /-- The caller gives a class another parent. -/
  | setParent (id : RecordId) (parent? : Option RecordId)
  | register (id : RecordId)
  | memberName (s : MemberSort) (ref : ClassRef)

namespace NamingOp

/-- Does an operation and gives the names that it issues. -/
def perform : NamingOp → Action (List String)
  | className => do return [← nextClassName]
  | newClass parent? => do
    let c ← Session.newClass parent?
    return [← Action.look fun w => written (w.records.nameOf c)]
  | construct name parent? methodCount fieldCount => do
    let (_, records) ← Action.look fun w =>
      buildClass w.records (.str name) parent? (.int methodCount) (.int fieldCount)
    Action.amend fun _ => records
    return []
  | setParent id parent? => do
    Action.amend (·.setParent id parent?)
    return []
  | register id => do
    registerClass id
    return []
  | memberName s ref => do return [← nextNameOf s ref]

/-- The names that an operation issues; none if it fails. -/
def issues (op : NamingOp) (w : Workbench) : List String :=
  match (op.perform.result w).1 with
  | .ok names => names
  | .error _ => []

/-- The workbench after an operation, also after one that fails. -/
def after (op : NamingOp) (w : Workbench) : Workbench := (op.perform.result w).2

/-- A class is referred to by a text, or by the record that is registered under its name. -/
def Current (w : Workbench) : ClassRef → Prop
  | .named v => ∃ s, v = .str s
  | .record id => ∃ key, (w.records.nameOf id).key? = some key ∧
      w.session.registry.find? key = some id

/-- A record is registered only under a name that is registered already, and members are
    named for classes that are registered. -/
def Allowed (w : Workbench) : NamingOp → Prop
  | register id => ∃ key ∈ w.session.registry.keys, (w.records.nameOf id).key? = some key
  | memberName _ ref => Current w ref
  | _ => True

end NamingOp

/-- A run from a workbench, with the names that it has issued and the workbench after it. -/
inductive NamingRun (start : Workbench) : List String → Workbench → Prop
  | nil : NamingRun start [] start
  | snoc {issued : List String} {w : Workbench} {op : NamingOp} :
      NamingRun start issued w → op.Allowed w → NamingRun start (issued ++ op.issues w) (op.after w)

/-- A run goes on with an operation, by the names that are issued then. -/
theorem NamingRun.step {start w : Workbench} {issued issued' : List String}
    (hrun : NamingRun start issued w) (op : NamingOp) (ha : op.Allowed w)
    (h : issued ++ op.issues w = issued') : NamingRun start issued' (op.after w) :=
  h ▸ hrun.snoc ha

/-- A session that has not allocated any name.  The records that are there already may refer
    to each other as they like. -/
structure Fresh (w : Workbench) : Prop where
  classCount : w.session.classCount = 0
  registry : w.session.registry = .empty
  typed : Typed w.records

/-- A new session without records, on which nothing was done. -/
def Workbench.unused (settings : Settings) (source : Random.Source) : Workbench where
  session := {}
  settings
  source
  records := .empty

/-- A new session has allocated no name. -/
theorem fresh_unused (settings : Settings) (source : Random.Source) :
    Fresh (.unused settings source) where
  classCount := rfl
  registry := rfl
  typed _ := Or.inr ⟨_, rfl⟩

/-! ## What the operations of a session do -/

/-- The class that is registered with a new class name. -/
def bareClass (n : Nat) : Record :=
  .ofClass (.str (classNameOf n)) (.value .null) (.int 0) (.int 0)

/-- The workbench after a class name was allocated. -/
def Workbench.allocated (w : Workbench) : Workbench :=
  let name := classNameOf w.session.classCount
  let (c, records) := w.records.add (bareClass w.session.classCount)
  { w with
    session := { w.session with
      classCount := w.session.classCount + 1
      registry := w.session.registry.enter (.str name) (.str name) c }
    records := records
    log := w.log ++ [⟨w.session.logger, .debug, s!"Allocate class name {name}"⟩] }

/-- What the allocation of a class name does. -/
theorem result_nextClassName (w : Workbench) :
    nextClassName.result w = (.ok (classNameOf w.session.classCount), w.allocated) := rfl

/-- A new class is refused or added after its name was allocated, and then registered. -/
theorem result_newClass (parent? : Option RecordId) (w : Workbench) :
    (newClass parent?).result w =
      match buildClass w.allocated.records (.str (classNameOf w.session.classCount)) parent?
          (.int 0) (.int 0) with
      | .error f => (.error f, w.allocated)
      | .ok (c, records) =>
        (do registerClass c; return c : Action RecordId).result
          { w.allocated with records := records } := by
  simp only [newClass, Action.result_bind, result_nextClassName, Action.result_look]
  -- the name is allocated before the class is made
  cases buildClass w.allocated.records (.str (classNameOf w.session.classCount)) parent?
      (.int 0) (.int 0) with
  | error f => rfl
  | ok built => simp only [Action.amend, Action.result_change]

/-- A class that is added is the last record. -/
theorem eq_add_of_buildClass {r r' : Records} {name m n : Value} {parent? : Option RecordId}
    {c : RecordId} (h : buildClass r name parent? m n = .ok (c, r')) :
    (c, r') = r.add (.ofClass name (Records.place parent?) m n) := by
  simp only [buildClass] at h
  split at h
  · exact (Except.ok.inj h).symm
  · exact nomatch h

/-- The name of a member is written if its number is not too long. -/
private theorem memberName_int (className : String) (s : MemberSort) (n : Int) :
    memberName (Text.lower className) s.word (.int n) =
      if n.natAbs < 10 ^ Number.maxDigits then .ok (memberText className s n)
      else .error (.tooLong ⟨⟩) := by
  -- numbers with too many digits are refused
  by_cases hlt : n.natAbs < 10 ^ Number.maxDigits
  · have hwritten : written (.int n) = .ok (toString n) := by
      simp only [written, Value.text, Value.describe, Number.writeInt, if_pos hlt]
    rw [memberName, hwritten, if_pos hlt]
    rfl
  · have hwritten : written (.int n) = .error (.tooLong ⟨⟩) := by
      simp only [written, Value.text, Value.describe, Number.writeInt, if_neg hlt]
    rw [memberName, hwritten, if_neg hlt]
    rfl

/-- The allocation of the name of a member, by the class that it is for. -/
theorem result_nextNameOf {w : Workbench} {s : MemberSort} {ref : ClassRef} {id : RecordId}
    {className : String} {count : MemberSort → Int} (hid : resolve w ref = .ok id)
    (h : Counts (w.records.get id) className count) :
    (nextNameOf s ref).result w =
      if (count s).natAbs < 10 ^ Number.maxDigits then
        (.ok (memberText className s (count s)),
          { w with records := w.records.assign id s.counter (.int (count s + 1)) })
      else (.error (.tooLong ⟨⟩), w) := by
  have hname : orMisuse (lowered (w.records.nameOf id)) = .ok (Text.lower className) := by
    rw [Records.nameOf, h.name]
    rfl
  have hnumber : orMisuse ((w.records.get id).get s.counter) = .ok (.int (count s)) := by
    rw [h.count s]
    rfl
  -- the number is written before it is raised, so nothing has changed if it is too long
  simp only [nextNameOf, nextMemberName, getClass, valueOf, Action.orMisuse, Action.amend,
    Action.result_bind, Action.result_look, Action.result_change, Action.result_pure, hid, hname,
    hnumber, Value.next_int, orMisuse_ok, memberName_int]
  by_cases hlt : (count s).natAbs < 10 ^ Number.maxDigits
  · rw [if_pos hlt, if_pos hlt]
  · rw [if_neg hlt, if_neg hlt]

/-- A text is looked up in the registry. -/
theorem findClass_str (s : Session) (name : String) :
    findClass s (.str name) =
      match s.registry.find? (.str name) with
      | some id => .ok id
      | none => .error (.unknownClass (Text.quoted name)) := by
  show (match s.registry.find? (.str name) with
    | some id => Except.ok id
    | none => refuse (.str name) .unknownClass) = _
  cases s.registry.find? (.str name) <;> rfl

/-- No name is allocated for a class that is not found. -/
theorem result_nextNameOf_error {w : Workbench} {s : MemberSort} {ref : ClassRef} {f : Failure}
    (h : resolve w ref = .error f) : (nextNameOf s ref).result w = (.error f, w) := by
  simp only [nextNameOf, nextMemberName, getClass, Action.result_bind, Action.result_look, h]

end JavaFragments.Session
