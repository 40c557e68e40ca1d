import Mathlib.Algebra.GroupWithZero.Nat
import JavaFragments.Proofs.Effects.CallCost
import JavaFragments.Proofs.Effects.RefusedOperation

/-! # What runs of operations cost

The answers that a session takes from its source can be told from what its operations answer:
a literal costs what its text tells, a random kind or name one answer, a call of a method that
throws one answer, and everything else nothing.

* `charges_performSession`   one operation
* `draws_performAll`         operations one after the other -/

namespace JavaFragments

namespace Session

open Fragment JavaFragments.Random

variable {α : Type}

/-! ## What does not ask the source -/

/-- A change of the records asks the source for nothing. -/
private theorem keepsSource_amend (f : Records → Records) :
    Keeps Workbench.source (Action.amend f) := fun _ => rfl

section Register

variable {τ : Type} {see : Workbench → τ}
  (hassign : ∀ id a v, Keeps see (Action.amend (·.assign id a v)))

include hassign

/-- Taking over a number keeps what assignments keep. -/
private theorem keeps_takeOver (id other : RecordId) (a : Attribute) :
    Keeps see (takeOver id other a) := by
  refine (keeps_valueOf id a).bind fun own => ?_
  refine (keeps_valueOf other a).bind fun known => ?_
  refine (keeps_orMisuse (own.larger known)).bind fun number => ?_
  exact hassign id a number

/-- Registering a class keeps what assignments and a change to the session keep. -/
theorem keeps_registerClass
    (hsession : ∀ f : Session → Session,
      Keeps see (Action.change fun w => { w with session := f w.session }))
    (c : RecordId) : Keeps see (registerClass c) := by
  have henter : ∀ (name : Value) (key : Key), Keeps see (Action.change fun w => { w with
      session := { w.session with registry := w.session.registry.enter name key c } }) :=
    fun name key => hsession fun session =>
      { session with registry := session.registry.enter name key c }
  refine (keeps_look _).bind fun name => ?_
  refine (keeps_look _).bind fun key => ?_
  refine (keeps_look _).bind fun known? => ?_
  cases known? with
  | none => exact henter name key
  | some known =>
    simp only
    split
    · -- the numbers of the class that is known by the name are taken over first
      refine (keeps_takeOver hassign c known .methodCount).bind fun _ => ?_
      refine (keeps_takeOver hassign c known .fieldCount).bind fun _ => ?_
      exact henter name key
    · exact henter name key

end Register

/-- Registering a class asks the source for nothing. -/
private theorem keepsSource_registerClass (c : RecordId) :
    Keeps Workbench.source (registerClass c) :=
  keeps_registerClass (fun _ _ _ => keepsSource_amend _) (fun _ _ => rfl) c

/-- Nor does the allocation of a class name. -/
private theorem keepsSource_nextClassName : Keeps Workbench.source nextClassName := fun _ => rfl

/-- Nor does a new class. -/
private theorem keepsSource_newClass (parent? : Option RecordId) :
    Keeps Workbench.source (newClass parent?) := by
  refine keepsSource_nextClassName.bind fun name => ?_
  refine (keeps_look _).bind fun built => ?_
  refine (keepsSource_amend _).bind fun _ => ?_
  exact (keepsSource_registerClass built.1).bind_pure

/-- Nor does the name of a member. -/
private theorem keepsSource_nextMemberName (ref : ClassRef) (sort : String) (a : Attribute) :
    Keeps Workbench.source (nextMemberName ref sort a) := by
  refine (keeps_look _).bind fun c => ?_
  refine (keeps_look _).bind fun className => ?_
  refine (keeps_valueOf c a).bind fun number => ?_
  refine (keeps_look _).bind fun name => ?_
  refine (keeps_orMisuse _).bind fun next => ?_
  exact (keepsSource_amend _).bind_pure

end Session

namespace Script

open Fragment JavaFragments.Random Session

variable {α : Type}

/-- The random source of the session. -/
def Scene.source (s : Scene) : Source := s.bench.source

/-- An action that asks a source for nothing asks it for nothing in a scene. -/
private theorem keepsSource_act {a : Action α} (h : Keeps Workbench.source a) :
    Keeps Scene.source (Run.act a) := fun s => h s.bench

/-- Nothing that is done with records asks a source. -/
private theorem keepsSource_handle (h : Handling α) :
    Keeps Scene.source (Run.handle h) := fun _ => rfl

/-- The name of a member of a class that is referred to asks the source for nothing. -/
private theorem keepsSource_memberText (arg : ClassArg) (sort : String) (a : Attribute) :
    Keeps Scene.source
      (do let ref ← classRef arg; return Answer.text (← Run.act (nextMemberName ref sort a))) := by
  refine (keeps_classRef arg).bind fun ref => ?_
  exact (keepsSource_act (keepsSource_nextMemberName ref sort a)).bind_pure

/-! ## What an operation costs -/

/-- The failure of an operation for a number that does not do. -/
def Failure.isBadNumber : Failure → Bool
  | session f => f.isBadNumber
  | _ => false

/-- What an operation of a session costs, by the scene before it and by what it answers. -/
def SessionOp.cost (s : Scene) (op : SessionOp) (answer : Except Failure Answer) : Nat :=
  match op, answer with
  | random, .ok _ | randomType _, .ok _ | nextVarName _, .ok _ => 1
  | literal type, .ok (.text t) => valueCost t type
  | defaultReturn type, .ok (.text t) => valueCost (behind "return " t) type
  | variableDeclaration target, .ok (.text t) =>
    (s.labels.get? target).elim 0 fun id => declarationCost (s.bench.records.get id) t
  | methodCall method _ _, .ok _ => (s.labels.get? method).elim 0 (callCost s.bench)
  | _, _ => 0

/-- A number does not do, or the source has given as many answers as it costs. -/
def Charges (s : Scene) (cost : Except Failure Answer → Nat) :
    Except Failure Answer × Scene → Prop
  | (answer, t) => (∃ f, answer = .error f ∧ f.isBadNumber) ∨ s.source.Answers (cost answer) t.source

/-- What does not ask the source costs nothing. -/
private theorem charges_of_keeps {a : Run Answer} (h : Keeps Scene.source a) {s : Scene}
    {cost : Except Failure Answer → Nat} (hcost : ∀ answer, cost answer = 0) :
    Charges s cost (a.run.run s) := by
  have hsource : (a.run.run s).2.source = s.source := h s
  refine .inr ?_
  show s.source.Answers (cost (a.run.run s).1) (a.run.run s).2.source
  rw [hcost, hsource]
  exact .start

/-- What is drawn costs what the draw does. -/
private theorem charges_draw {d : Settings → Draw α} {k : α → Answer} {s : Scene}
    {cost : Except Failure Answer → Nat}
    (h : Spends True (d s.bench.settings) fun a n => n = cost (.ok (k a)))
    (herror : ∀ f, cost (.error f) = 0) :
    Charges s cost ((do return k (← Run.act (Action.draw d)) : Run Answer).run.run s) := by
  have hact : (Run.act (Action.draw d)).run.run s =
      (((d s.bench.settings).result s.source).1.mapError .session,
        { s with bench := { s.bench with source := ((d s.bench.settings).result s.source).2 } }) :=
    rfl
  rw [run_bind, hact]
  cases hd : (d s.bench.settings).result s.source with
  | mk r t =>
    cases r with
    | error f =>
      refine (h.error hd).imp (fun hbad => ⟨.session f, rfl, hbad⟩) fun ⟨ht, _⟩ => ?_
      show s.source.Answers (cost (.error (.session f))) t
      rw [herror, ht]
      exact .start
    | ok a =>
      obtain ⟨n, rfl, hanswers⟩ := h.ok hd
      exact .inr hanswers

/-- What is done with the record under a label. -/
private theorem run_withRecord (label : Label) (k : RecordId → Run α) (s : Scene) :
    (Run.handle (recordOf label) >>= k).run.run s =
      match s.labels.get? label with
      | some id => (k id).run.run s
      | none => (.error (.noRecord label), s) := by
  rw [run_bind]
  have hrecord : (Run.handle (recordOf label)).run.run s =
      (match s.labels.get? label with
        | some id => .ok id
        | none => .error (.noRecord label), s) := rfl
  rw [hrecord]
  cases s.labels.get? label <;> rfl

/-- Whether a record has what a variable is asked for. -/
def isVariable (d : Record) : Bool := (d.get .declared).isOk && (d.get .available).isOk

/-- A result that is no failure is a value. -/
private theorem exists_of_isOk {ε : Type} {x : Except ε α} (h : x.isOk = true) :
    ∃ a, x = .ok a := by
  cases x with
  | ok a => exact ⟨a, rfl⟩
  | error e => cases h

/-- Whether it is a variable that is declared or that a call is assigned to. -/
def SessionOp.onVariable (s : Scene) : SessionOp → Bool
  | variableDeclaration target | methodCall _ target _ =>
    (s.labels.get? target).all fun id => isVariable (s.bench.records.get id)
  | _ => true

/-- A variable that is found under its label. -/
private theorem isVariable_of_all {s : Scene} {target : Label} {id : RecordId}
    (htarget : s.labels.get? target = some id)
    (h : (s.labels.get? target).all (fun id => isVariable (s.bench.records.get id)) = true) :
    (∃ v, (s.bench.records.get id).get .declared = .ok v) ∧ HasAvailable s.bench.records id := by
  rw [htarget, Option.all_some, isVariable, Bool.and_eq_true] at h
  exact ⟨exists_of_isOk h.1, exists_of_isOk h.2⟩

/-- The declaration of a variable is charged for the literal in it. -/
private theorem charges_variableDeclaration {s : Scene} {target : Label}
    (hcheck : s.bench.settings.check = .ok ())
    (h : (SessionOp.variableDeclaration target).onVariable s = true) :
    Charges s ((SessionOp.variableDeclaration target).cost s)
      ((performSession (.variableDeclaration target)).run.run s) := by
  show Charges s _ ((Run.handle (recordOf target) >>= _).run.run s)
  rw [run_withRecord]
  -- a label without a record costs nothing
  cases htarget : s.labels.get? target with
  | none => exact .inr .start
  | some id =>
    obtain ⟨⟨declared, hdeclared⟩, -⟩ := isVariable_of_all htarget h
    have hspends := spends_variableDeclaration (fun m => isBadNumber_of_whole hcheck) hdeclared
    have hcost (text : String) : declarationCost (s.bench.records.get id) text =
        (SessionOp.variableDeclaration target).cost s (.ok (.text text)) := by
      show _ = (s.labels.get? target).elim 0 _
      rw [htarget]
      rfl
    exact charges_draw (d := (variableDeclaration · (s.bench.records.get id))) (k := .text)
      (hspends.mono fun text n hn => hn.trans (hcost text)) fun _ => rfl

/-- A call is charged for what it has left of the source.  That its variable is asked whether it
    has a certain value costs nothing. -/
theorem charges_call {s : Scene} {m target : RecordId} {args : List RecordId}
    {cost : Except Failure Answer → Nat}
    (hspends : CallSpends s.bench m target ((methodCall m target args).result s.bench))
    (hhas : HasAvailable s.bench.records target)
    (hok : ∀ answer, cost (.ok answer) = callCost s.bench m)
    (herror : ∀ f, cost (.error f) = 0) :
    Charges s cost ((do
      let site ← Run.act (methodCall m target args)
      return .call site (← Run.act (valueOf target .available)) : Run Answer).run.run s) := by
  have hact : (Run.act (methodCall m target args)).run.run s =
      (((methodCall m target args).result s.bench).1.mapError .session,
        { s with bench := ((methodCall m target args).result s.bench).2 }) := rfl
  rw [run_bind, hact]
  cases hcall : (methodCall m target args).result s.bench with
  | mk r v =>
    rw [hcall] at hspends
    cases r with
    | error f =>
      refine .inr ?_
      show s.source.Answers (cost (.error (.session f))) v.source
      rw [herror, show v.source = s.source from hspends]
      exact .start
    | ok site =>
      obtain ⟨hanswers, hstill⟩ := hspends
      obtain ⟨available, havailable⟩ := hstill hhas
      have hvalue : (Run.act (valueOf target .available)).run.run { s with bench := v } =
          ((orMisuse ((v.records.get target).get .available)).mapError Failure.session,
            { s with bench := v }) := rfl
      show Charges s cost ((Run.act (valueOf target .available) >>= fun available =>
        pure (.call site available) : Run Answer).run.run { s with bench := v })
      rw [run_bind, hvalue, havailable]
      refine .inr ?_
      show s.source.Answers (cost (.ok (.call site available))) v.source
      rw [hok]
      exact hanswers

/-- A call that is found under its labels is charged for what it draws. -/
theorem charges_methodCall {s : Scene} {method target : Label} {args : List Label}
    (hcheck : s.bench.settings.check = .ok ())
    (h : (SessionOp.methodCall method target args).onVariable s = true) :
    Charges s ((SessionOp.methodCall method target args).cost s)
      ((performSession (.methodCall method target args)).run.run s) := by
  show Charges s _ ((Run.handle (recordOf target) >>= _).run.run s)
  rw [run_withRecord]
  -- labels without records cost nothing
  cases htarget : s.labels.get? target with
  | none => exact .inr .start
  | some t =>
    show Charges s _ ((Run.handle (recordOf method) >>= _).run.run s)
    rw [run_withRecord]
    cases hmethod : s.labels.get? method with
    | none => exact .inr .start
    | some m =>
      -- looking up the arguments changes nothing
      have hkept : Keeps id (Run.handle (recordsOf args)) := keeps_handle (keeps_recordsOf args)
      have hargs : ((Run.handle (recordsOf args)).run.run s).2 = s := hkept s
      apply run_bind_cases
        (motive := Charges s ((SessionOp.methodCall method target args).cost s))
      · intro e u hrun
        obtain rfl : u = s := (congrArg Prod.snd hrun).symm.trans hargs
        exact .inr .start
      · intro ids u hrun
        obtain rfl : u = s := (congrArg Prod.snd hrun).symm.trans hargs
        refine charges_call (callSpends_methodCall m t ids hcheck) (isVariable_of_all htarget h).2
          (fun answer => ?_) fun _ => rfl
        show (u.labels.get? method).elim 0 _ = _
        rw [hmethod]
        rfl

/-- Every operation of a session but its reset is charged for its answers. -/
theorem charges_performSession {op : SessionOp} {s : Scene} (hreset : op ≠ .reset)
    (hcheck : s.bench.settings.check = .ok ()) (h : op.onVariable s = true) :
    Charges s (op.cost s) ((performSession op).run.run s) := by
  have hscale : ∀ m, (s.bench.settings.get .floatScale).whole .low = .error m → m.isBadNumber :=
    fun m => isBadNumber_of_whole hcheck
  cases op with
  | reset => exact absurd rfl hreset
  | dump =>
    refine charges_of_keeps ?_ fun _ => rfl
    refine (keeps_runTold _).bind fun seed => ?_
    refine (keeps_runTold _).bind fun classes => ?_
    exact (keeps_runTold _).bind_pure
  | setOption target v =>
    have hset (settings : Settings) : Keeps Workbench.source
        (Action.change fun w => { w with settings := settings }) := fun _ => rfl
    refine charges_of_keeps ?_ fun _ => rfl
    refine (keeps_runTold _).bind fun settings => ?_
    exact (keepsSource_act (hset settings)).bind_pure
  | options =>
    refine charges_of_keeps ((keeps_runTold _).bind fun w => ?_) fun _ => rfl
    split
    · exact .pure _
    · exact .throw _
  | draws => exact charges_of_keeps (keeps_runTold _).bind_pure fun _ => rfl
  | random =>
    exact charges_draw (d := fun _ => Draw.random) (k := .float)
      (spends_random.weaken False.elim) fun _ => rfl
  | nextClassName =>
    exact charges_of_keeps (keepsSource_act keepsSource_nextClassName).bind_pure fun _ => rfl
  | newClass parent? label? =>
    refine charges_of_keeps ?_ fun _ => rfl
    refine (keepsSource_handle _).bind fun above => ?_
    refine (keepsSource_act (keepsSource_newClass above)).bind fun c => ?_
    exact keepsSource_handle _
  | registerClass label =>
    refine charges_of_keeps ?_ fun _ => rfl
    refine (keepsSource_handle _).bind fun c => ?_
    refine (keepsSource_act (keepsSource_registerClass c)).bind fun _ => ?_
    exact keepsSource_handle _
  | getClass arg label? =>
    refine charges_of_keeps ?_ fun _ => rfl
    refine (keeps_classRef arg).bind fun ref => ?_
    refine (keepsSource_act (keeps_look _)).bind fun c => ?_
    exact keepsSource_handle _
  | nextMethodName arg => exact charges_of_keeps (keepsSource_memberText arg _ _) fun _ => rfl
  | nextFieldName arg => exact charges_of_keeps (keepsSource_memberText arg _ _) fun _ => rfl
  -- what is drawn is charged for
  | nextVarName methodName =>
    exact charges_draw (d := (drawVarName · methodName)) (k := .text)
      (spends_drawVarName _ methodName) fun _ => rfl
  | randomType allowVoid =>
    exact charges_draw (d := (drawKind · allowVoid)) (k := .kind)
      ((spends_drawKind _ allowVoid).weaken False.elim) fun _ => rfl
  | literal type =>
    exact charges_draw (d := (drawValue · type)) (k := .text)
      ((spends_drawValue hscale type).mono fun _ _ hn => hn.2) fun _ => rfl
  | defaultReturn type =>
    exact charges_draw (d := (defaultReturn · type)) (k := .text)
      (spends_defaultReturn hscale type) fun _ => rfl
  | variableDeclaration target => exact charges_variableDeclaration hcheck h
  | methodCall method target args => exact charges_methodCall hcheck h
  -- what is left are texts that are written without a draw
  | classDeclaration name parent? =>
    refine charges_of_keeps ?_ fun _ => rfl
    exact (keepsSource_handle _).bind fun above => keeps_answerText _
  | methodDeclaration method declareThrows =>
    refine charges_of_keeps ?_ fun _ => rfl
    exact (keepsSource_handle _).bind fun m => keeps_answerText _
  | fieldDeclaration field =>
    refine charges_of_keeps ?_ fun _ => rfl
    exact (keepsSource_handle _).bind fun f => keeps_answerText _
  | forStatement target bound start =>
    refine charges_of_keeps ?_ fun _ => rfl
    exact (keepsSource_handle _).bind fun c => keeps_answerText _
  | throwStatement exception? message? => exact charges_of_keeps (keeps_answerText _) fun _ => rfl
  | assignment method target args =>
    refine charges_of_keeps ?_ fun _ => rfl
    refine (keepsSource_handle _).bind fun m => ?_
    refine (keepsSource_handle _).bind fun c => ?_
    refine (keepsSource_handle _).bind fun args => ?_
    exact keeps_answerText _
  | openBlock => exact charges_of_keeps (.pure _) fun _ => rfl
  | closeBlock => exact charges_of_keeps (.pure _) fun _ => rfl
  | semicolon => exact charges_of_keeps (.pure _) fun _ => rfl
  | elseStatement => exact charges_of_keeps (.pure _) fun _ => rfl
  | ifStatement condition => exact charges_of_keeps (.pure _) fun _ => rfl

/-! ## Runs -/

/-- An operation of a run, with the scene before it and with what it answers. -/
structure Event where
  before : Scene
  op : Op
  answer : Except Failure Answer

namespace Event

/-- What an operation of a run costs; one on records costs nothing. -/
def cost (e : Event) : Nat :=
  match e.op with
  | .record _ => 0
  | .session op => op.cost e.before e.answer

/-- Whether an operation fails for a number that does not do. -/
def hasBadNumber (e : Event) : Bool :=
  match e.answer with
  | .ok _ => false
  | .error f => f.isBadNumber

/-- Whether an operation resets the session. -/
def isReset (e : Event) : Bool :=
  match e.op with
  | .session .reset => true
  | _ => false

/-- Whether what an operation asks of a variable is asked of one. -/
def onVariable (e : Event) : Bool :=
  match e.op with
  | .record _ => true
  | .session op => op.onVariable e.before

/-- The session is not reset, its options are as they are accepted, what is asked of a variable is
    asked of one, and all numbers do. -/
structure Regular (e : Event) : Prop where
  isReset : e.isReset = false
  accepted : e.before.bench.settings.check = .ok ()
  onVariable : e.onVariable = true
  hasBadNumber : e.hasBadNumber = false

instance (x : Except Options.Failure Unit) : Decidable (x = .ok ()) :=
  match x with
  | .ok () => isTrue rfl
  | .error _ => isFalse nofun

instance (e : Event) : Decidable e.Regular :=
  decidable_of_iff
    (e.isReset = false ∧ e.before.bench.settings.check = .ok () ∧ e.onVariable = true ∧
      e.hasBadNumber = false)
    ⟨fun ⟨hreset, haccepted, hvariable, hnumber⟩ => ⟨hreset, haccepted, hvariable, hnumber⟩,
      fun h => ⟨h.isReset, h.accepted, h.onVariable, h.hasBadNumber⟩⟩

end Event

/-- The operations of a run with what they answer. -/
def events : List Op → Scene → List Event
  | [], _ => []
  | op :: ops, s => ⟨s, op, ((perform op).run.run s).1⟩ :: events ops ((perform op).run.run s).2

/-- The operations of a run answer what the run does. -/
theorem map_answer_events (ops : List Op) (s : Scene) :
    (events ops s).map Event.answer = (performAll ops s).1 := by
  -- on the operations, each of which starts from what those before it have left
  induction ops generalizing s with
  | nil => rfl
  | cons op ops ih => rw [events, List.map_cons, ih]; rfl

/-- What an operation has left of the source. -/
theorem answers_perform {op : Op} {s : Scene}
    (h : (⟨s, op, ((perform op).run.run s).1⟩ : Event).Regular) :
    s.source.Answers (Event.cost ⟨s, op, ((perform op).run.run s).1⟩)
      ((perform op).run.run s).2.source := by
  -- operations on records never come near the source
  cases op with
  | record op =>
    have hsource : ((perform (.record op)).run.run s).2.source = s.source :=
      keepsSource_handle (performRecord op) s
    rw [hsource]
    exact .start
  | session op =>
    have hreset : op ≠ .reset := by
      rintro rfl
      exact absurd h.isReset nofun
    obtain ⟨f, hf, hbad⟩ | hanswers := charges_performSession hreset h.accepted h.onVariable
    · have hanswer : ((perform (.session op)).run.run s).1 = .error f := hf
      have hnumbers := h.hasBadNumber
      rw [Event.hasBadNumber, hanswer] at hnumbers
      exact absurd hbad (Bool.eq_false_iff.1 hnumbers)
    · exact hanswers

/-- A run has left the source behind as many answers as its operations cost. -/
theorem answers_performAll {ops : List Op} {s : Scene} (h : ∀ e ∈ events ops s, e.Regular) :
    s.source.Answers ((events ops s).map Event.cost).sum (performAll ops s).2.source := by
  -- each operation starts from the source that those before it have left
  induction ops generalizing s with
  | nil => exact .start
  | cons op ops ih =>
    obtain ⟨hop, hops⟩ := List.forall_mem_cons.1 h
    rw [events, List.map_cons, List.sum_cons]
    exact (answers_perform hop).trans (ih hops)

/-- The answers that a run takes from the source of the session can be told from what its operations
    answer.  A literal costs what its text tells, wherever it stands; a random kind, the name of a
    variable and a call of a method that throws cost one answer; nothing else costs any, in
    particular no operation that fails.  A script is read on by so many places, round and round. -/
theorem draws_performAll {ops : List Op} {s : Scene} (h : ∀ e ∈ events ops s, e.Regular) :
    (performAll ops s).2.bench.source.draws =
        s.bench.source.draws + ((events ops s).map Event.cost).sum ∧
      ∀ numbers position, s.bench.source.generator = .script numbers position →
        position < numbers.length →
        (performAll ops s).2.bench.source.generator =
          .script numbers ((position + ((events ops s).map Event.cost).sum) % numbers.length) :=
  ⟨(answers_performAll h).draws, fun _ _ hscript hposition =>
    (answers_performAll h).script hscript hposition⟩

/-- A session with a method that throws and a variable that is a string. -/
def mixedScene : Scene where
  bench := {
    session := {}
    settings := default
    source := .ofScript [5, 2, 0, 7]
    records := ⟨#[
      .ofMethod (.str "risky") (.kind .int) (.str "") .empty (.str "Class_0") (.bool true),
      .ofVar (.str "x") (.kind .string) (.bool false) (.bool true)]⟩ }
  labels := .ofList [("m", ⟨0⟩), ("x", ⟨1⟩)]

/-- A declaration, a call, a literal that is refused, one with a floating-point number, and a name
    after the variable was noted as declared. -/
def mixedOps : List Op := [
  .session (.variableDeclaration "x"), .session (.methodCall "m" "x" []),
  .session (.literal (.kind .void)), .session (.literal (.kind .float)),
  .record (.assign "x" (.ofAttribute .declared) (.bool true)), .session (.nextVarName "main")]

/-- The declaration costs eleven answers, as its literal has ten characters between the quotes. -/
theorem draws_performAll_mixed :
    (performAll mixedOps mixedScene).2.bench.source.draws = 15 ∧
      (performAll mixedOps mixedScene).2.bench.source.generator = .script [5, 2, 0, 7] 3 := by
  have hall : ((events mixedOps mixedScene).all fun e => decide e.Regular) = true := by
    decide +kernel
  have hregular : ∀ e ∈ events mixedOps mixedScene, e.Regular := fun e he =>
    of_decide_eq_true (List.all_eq_true.1 hall e he)
  have hsum : ((events mixedOps mixedScene).map Event.cost).sum = 15 := by decide +kernel
  obtain ⟨hdraws, hposition⟩ := draws_performAll hregular
  rw [hsum] at hdraws hposition
  exact ⟨hdraws, hposition [5, 2, 0, 7] 0 rfl (by decide)⟩

end Script

end JavaFragments
