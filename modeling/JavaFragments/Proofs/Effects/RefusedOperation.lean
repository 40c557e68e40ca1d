import JavaFragments.Proofs.Effects.RefusedAction
import JavaFragments.Script.Perform

/-! # Refused operations leave no trace

An operation that is refused leaves the records, the labels and the session with its source,
its log and its registry as they were.  Only a new class has an effect before it may be
refused: its name stays allocated.

* `failsFirst_performRecord`   operations on records
* `failsFirst_performSession`  operations of a session but a new class
* `leaves_performNewClass`     a new class
* `eq_left_of_refused`         what a refused operation leaves -/

namespace JavaFragments

namespace Script

open Fragment Session

variable {α τ : Type}

/-- An operation is refused by what it is asked of, and not for want of a label. -/
def Failure.IsRefusal : Failure → Prop
  | session f => f.IsRefusal
  | _ => False

/-! ## Operations on records -/

section Handling

variable {see : Shelf → τ}

/-- What is told of the records changes nothing. -/
theorem keeps_told (f : Records → Except Fragment.Failure α) : Keeps see (Handling.told f) :=
  fun _ => rfl

/-- A record is looked up without a change. -/
theorem keeps_recordOf (label : Label) : Keeps see (recordOf label) := fun _ => rfl

/-- Several records are looked up without a change. -/
theorem keeps_recordsOf (labels : List Label) : Keeps see (recordsOf labels) :=
  Keeps.mapM keeps_recordOf labels

/-- A record that may be left out is looked up without a change. -/
theorem keeps_recordOf? (label? : Option Label) : Keeps see (recordOf? label?) := by
  cases label? with
  | none => exact .pure none
  | some label => exact (keeps_recordOf label).bind_pure

/-- A record is shown without a change. -/
theorem keeps_shown (c : RecordId) : Keeps see (shown c) := (keeps_told _).bind_pure

/-- A record that can do something is looked up without a change. -/
theorem keeps_actorOf (a : ClassAction) (label : Label) : Keeps see (actorOf a label) := by
  refine (keeps_recordOf label).bind fun c => ?_
  exact (keeps_told _).bind_pure

/-- What a record does without a change changes nothing. -/
theorem keeps_act (a : ClassAction) (c : RecordId) (f : Records → Except Fragment.Failure α) :
    Keeps see (act a c f) := keeps_told _

end Handling

/-- A result that is no refusal is none in a script. -/
private theorem spares_session {r : Except Fragment.Failure α}
    (h : Spares Fragment.Failure.IsRefusal r) :
    Spares Failure.IsRefusal (r.mapError .session) := by
  cases r with
  | ok a => exact .ok a
  | error f => exact .error (h f rfl)

/-- What is told of the records is no refusal if it never is one. -/
private theorem avoids_told {f : Records → Except Fragment.Failure α}
    (h : ∀ r, Spares Fragment.Failure.IsRefusal (f r)) : Avoids Failure.IsRefusal (Handling.told f) :=
  fun s => spares_session (h s.records)

/-- A change of the records on a shelf does not fail. -/
private theorem avoids_handlingAmend (f : Records → Records) :
    Avoids Failure.IsRefusal (Handling.amend f) := fun _ => .ok ()

/-- A record is added without a failure. -/
private theorem avoids_add (f : Records → α × Records) :
    Avoids Failure.IsRefusal (Handling.add f) :=
  fun _ => .ok _

/-- A label is given without a failure. -/
private theorem avoids_label (label? : Option Label) (id : RecordId) :
    Avoids Failure.IsRefusal (Handling.label label? id) := by
  intro s
  cases label? <;> exact .ok ()

/-- A label without a record is no refusal. -/
private theorem avoids_recordOf (label : Label) : Avoids Failure.IsRefusal (recordOf label) := by
  intro s
  simp only [recordOf, Handling.look, ExceptT.run, ExceptT.mk, StateT.run]
  cases s.labels.get? label with
  | some record => exact .ok record
  | none => exact .error id

/-- Nor is it where the label may be left out. -/
private theorem avoids_recordOf? (label? : Option Label) :
    Avoids Failure.IsRefusal (recordOf? label?) := by
  cases label? with
  | none => exact .pure none
  | some label => exact (avoids_recordOf label).bind_pure

/-- A record that cannot be shown is no refusal. -/
private theorem avoids_shown (id : RecordId) : Avoids Failure.IsRefusal (shown id) :=
  (avoids_told fun _ => spares_orMisuse (spares_view _ _)).bind_pure

/-- A new record gets its label and is shown without a refusal. -/
private theorem avoids_introduced (label? : Option Label) (id : RecordId) :
    Avoids Failure.IsRefusal (introduced label? id) :=
  (avoids_label label? id).bind fun _ => avoids_shown id

/-- An operation on records is refused before it changes any. -/
theorem failsFirst_performRecord (op : RecordOp) :
    FailsFirst Failure.IsRefusal (performRecord op) := by
  cases op with
  -- a class is built before it is added
  | addClass name parent? methodCount fieldCount label? =>
    refine (keeps_recordOf? parent?).bind_failsFirst fun above => ?_
    refine (keeps_told _).bind_failsFirst fun built => ?_
    apply Avoids.leaves
    exact (avoids_handlingAmend _).bind fun _ => avoids_introduced label? built.1
  | addMethod name returnType body params owner throws label? =>
    refine (keeps_recordsOf params).bind_failsFirst fun params => ?_
    apply Avoids.leaves
    exact (avoids_add _).bind fun m => avoids_introduced label? m
  | addField name type initialValue label? =>
    apply Avoids.leaves
    exact (avoids_add _).bind fun f => avoids_introduced label? f
  | addVar name type declared available label? =>
    apply Avoids.leaves
    exact (avoids_add _).bind fun v => avoids_introduced label? v
  | view label => exact ((keeps_recordOf label).bind keeps_shown).failsFirst
  -- a part that there is not is refused before the change
  | assign label part v =>
    refine (keeps_recordOf label).bind_failsFirst fun c => ?_
    refine (keeps_told _).bind_failsFirst fun d => ?_
    exact (Avoids.bind_pure (avoids_handlingAmend _)).leaves
  | setParent label parent? =>
    refine (keeps_recordOf? parent?).bind_failsFirst fun above => ?_
    refine (keeps_recordOf label).bind_failsFirst fun c => ?_
    exact (Avoids.bind_pure (avoids_handlingAmend _)).leaves
  | ancestors label =>
    refine (keeps_actorOf .ancestors label).bind_failsFirst fun c => ?_
    exact (keeps_act _ c _).bind_pure.failsFirst
  | isRoot label =>
    refine (keeps_actorOf .isRoot label).bind_failsFirst fun c => ?_
    exact (keeps_act _ c _).bind_pure.failsFirst
  | attachField label field =>
    refine (keeps_actorOf .attachField label).bind_failsFirst fun c => ?_
    refine (keeps_recordOf field).bind_failsFirst fun member => ?_
    refine (keeps_act _ c _).bind_failsFirst fun attached => ?_
    apply Avoids.leaves
    exact (avoids_handlingAmend _).bind fun _ => avoids_shown member
  | attachMethod label method =>
    refine (keeps_actorOf .attachMethod label).bind_failsFirst fun c => ?_
    refine (keeps_recordOf method).bind_failsFirst fun member => ?_
    refine (keeps_act _ c _).bind_failsFirst fun _ => ?_
    -- what may be wrong after the method got its owner is no refusal
    apply Avoids.leaves
    have hattach : ∀ r : Records, Spares Misuse.IsNoKey (r.attachMethod c member) :=
      fun r => (spares_push _ _).bind fun _ => .ok _
    refine (avoids_handlingAmend _).bind fun _ => ?_
    refine (avoids_told fun r => spares_orMisuse (hattach r)).bind fun attached => ?_
    exact (avoids_handlingAmend _).bind fun _ => avoids_shown member
  | same a b =>
    refine (keeps_recordOf a).bind_failsFirst fun a => ?_
    refine (keeps_recordOf b).bind_failsFirst fun b => ?_
    exact (keeps_told _).bind_pure.failsFirst
  | typePrefix target =>
    refine (keeps_recordOf target).bind_failsFirst fun c => ?_
    exact (keeps_told _).bind_pure.failsFirst
  | argumentText args =>
    refine (keeps_recordsOf args).bind_failsFirst fun args => ?_
    exact (keeps_told _).bind_pure.failsFirst
  | javaType type => exact (keeps_told _).bind_pure.failsFirst

/-! ## Operations of a session -/

/-- What is done with the records before a refusal is nothing. -/
private theorem failsFirst_handle {h : Handling α} (hh : FailsFirst Failure.IsRefusal h) :
    FailsFirst Failure.IsRefusal (Run.handle h) := by
  intro s f hf href
  have hshelf : (h.run.run s.shelf).2 = s.shelf := hh s.shelf f hf href
  show s.withShelf (h.run.run s.shelf).2 = s
  rw [hshelf]
  rfl

/-- What leaves the shelf as it is leaves the scene as it is. -/
theorem keeps_handle {h : Handling α} (hh : Keeps id h) {see : Scene → τ} :
    Keeps see (Run.handle h) := by
  intro s
  have hshelf : (h.run.run s.shelf).2 = s.shelf := hh s.shelf
  show see (s.withShelf (h.run.run s.shelf).2) = see s
  rw [hshelf]
  rfl

/-- What is done with the records is no refusal in a scene if it is none on the shelf. -/
private theorem avoids_handle {h : Handling α} (hh : Avoids Failure.IsRefusal h) :
    Avoids Failure.IsRefusal (Run.handle h) := fun s => hh s.shelf

/-- An action that fails fails in the session. -/
private theorem exists_of_act_error {a : Action α} {s : Scene} {f : Failure}
    (h : ((Run.act a).run.run s).1 = .error f) :
    ∃ e, (a.run.run s.bench).1 = .error e ∧ f = .session e := by
  have hsession : ((a.run.run s.bench).1).mapError Failure.session = .error f := h
  cases hr : (a.run.run s.bench).1 with
  | ok x =>
    rw [hr] at hsession
    cases hsession
  | error e =>
    rw [hr] at hsession
    exact ⟨e, rfl, (Except.error.inj hsession).symm⟩

/-- What an action leaves in a session, it leaves in a scene. -/
private theorem leaves_act {a : Action α} {left : Workbench → Workbench}
    (ha : Leaves Fragment.Failure.IsRefusal left a) :
    Leaves Failure.IsRefusal (fun s => { s with bench := left s.bench }) (Run.act a) := by
  intro s f hf href
  obtain ⟨e, he, rfl⟩ := exists_of_act_error hf
  have hbench : (a.run.run s.bench).2 = left s.bench := ha s.bench e he href
  show { s with bench := (a.run.run s.bench).2 } = _
  rw [hbench]

/-- An action that is refused before it changes anything is so in a scene. -/
theorem failsFirst_act {a : Action α} (ha : FailsFirst Fragment.Failure.IsRefusal a) :
    FailsFirst Failure.IsRefusal (Run.act a) := leaves_act ha

/-- An action that is not refused is not refused in a scene. -/
theorem avoids_act {a : Action α} (ha : Avoids Fragment.Failure.IsRefusal a) :
    Avoids Failure.IsRefusal (Run.act a) := fun s => spares_session (ha s.bench)

section Scene

variable {see : Scene → τ}

/-- What is told of the workbench changes nothing. -/
theorem keeps_runTold (f : Workbench → Except Fragment.Failure α) : Keeps see (Run.told f) :=
  fun _ => rfl

/-- A text that is answered changes nothing. -/
theorem keeps_answerText (f : Workbench → Except Fragment.Failure String) :
    Keeps see (answerText f) := (keeps_runTold f).bind_pure

/-- A class is referred to without a change. -/
theorem keeps_classRef (arg : ClassArg) : Keeps see (classRef arg) := by
  cases arg with
  | labelled label => exact (keeps_handle (keeps_recordOf label)).bind_pure
  | named v => exact .pure _

end Scene

/-- A record is looked up before anything is done with it. -/
private theorem failsFirst_withRecord {label : Label} {k : RecordId → Run α}
    (hk : ∀ c, FailsFirst Failure.IsRefusal (k c)) :
    FailsFirst Failure.IsRefusal (Run.handle (recordOf label) >>= k) :=
  (keeps_handle (keeps_recordOf label)).bind_failsFirst hk

/-- A text that is drawn, and refused before. -/
private theorem failsFirst_drawText {d : Settings → Draw String}
    (hd : ∀ s, FailsFirst Fragment.Failure.IsRefusal (d s)) :
    FailsFirst Failure.IsRefusal (do return Answer.text (← Run.act (Action.draw d))) :=
  (failsFirst_act (failsFirst_draw hd)).bind_pure

/-- The text of a name is refused before it is allocated. -/
private theorem failsFirst_memberText (arg : ClassArg) (sort : String) (a : Attribute) :
    FailsFirst Failure.IsRefusal
      (do let ref ← classRef arg; return Answer.text (← Run.act (nextMemberName ref sort a))) := by
  refine (keeps_classRef arg).bind_failsFirst fun ref => ?_
  exact (failsFirst_act (failsFirst_nextMemberName ref sort a)).bind_pure

/-- What the allocation of a class name leaves if nothing else is done. -/
def allocated (s : Scene) : Scene := { s with bench := (Session.nextClassName.result s.bench).2 }

/-- A new class is refused after its name was allocated. -/
theorem leaves_performNewClass (parent? label? : Option Label) :
    Leaves Failure.IsRefusal allocated (performSession (.newClass parent? label?)) := by
  -- the parent is looked up before, and the class gets its label after it was added
  have hlooked : Avoids Failure.IsRefusal (Run.handle (recordOf? parent?)) :=
    avoids_handle (avoids_recordOf? parent?)
  refine (keeps_handle (keeps_recordOf? parent?)).bind_leaves hlooked fun above => ?_
  refine (leaves_act (leaves_newClass above)).bind_avoids fun c => ?_
  exact avoids_handle (avoids_introduced label? c)

/-- A new class is refused only as a class above itself. -/
private theorem exists_ownAncestor_of_performNewClass {parent? label? : Option Label} {s : Scene}
    {f : Failure} (h : ((performSession (.newClass parent? label?)).run.run s).1 = .error f)
    (hf : f.IsRefusal) : ∃ below above, f = .session (.ownAncestor below above) := by
  -- the three steps: the parent, the class, its label
  revert h
  apply run_bind_cases
    (motive := fun p => p.1 = .error f → ∃ below above, f = .session (.ownAncestor below above))
  · intro e t hparent he
    obtain rfl : e = f := Except.error.inj he
    exact absurd hf (avoids_handle (avoids_recordOf? parent?) s e (congrArg Prod.fst hparent))
  · intro parent? t _
    apply run_bind_cases
      (motive := fun p => p.1 = .error f → ∃ below above, f = .session (.ownAncestor below above))
    · intro e t' hclass he
      obtain rfl : e = f := Except.error.inj he
      obtain ⟨e, hnew, rfl⟩ := exists_of_act_error (congrArg Prod.fst hclass)
      obtain ⟨below, above, rfl⟩ := exists_ownAncestor_of_newClass hnew hf
      exact ⟨below, above, rfl⟩
    · intro c t' _ he
      exact absurd hf (avoids_handle (avoids_introduced label? c) t' f he)

/-- Every operation of a session but a new class is refused before it changes anything. -/
theorem failsFirst_performSession (op : SessionOp)
    (hop : ∀ parent? label?, op ≠ .newClass parent? label?) :
    FailsFirst Failure.IsRefusal (performSession op) := by
  cases op with
  | newClass parent? label? => exact absurd rfl (hop parent? label?)
  | reset => exact (Avoids.bind_pure (avoids_act avoids_reset)).leaves
  | dump =>
    refine (keeps_runTold _).bind_failsFirst fun seed => ?_
    refine (keeps_runTold _).bind_failsFirst fun classes => ?_
    exact (keeps_runTold _).bind_pure.failsFirst
  | setOption target v =>
    refine (keeps_runTold _).bind_failsFirst fun settings => ?_
    exact (Avoids.bind_pure (avoids_act (avoids_change _))).leaves
  | options =>
    refine (keeps_runTold _).bind_failsFirst fun w => ?_
    split
    · exact (Keeps.pure _).failsFirst
    · exact (Keeps.throw _).failsFirst
  | random => exact (Avoids.bind_pure (avoids_act (avoids_draw fun _ => avoids_ask _))).leaves
  | draws => exact (keeps_runTold _).bind_pure.failsFirst
  | nextClassName => exact (Avoids.bind_pure (avoids_act avoids_nextClassName)).leaves
  | registerClass label =>
    refine failsFirst_withRecord fun c => ?_
    -- what is shown afterwards is no refusal
    refine (failsFirst_act (failsFirst_registerClass c)).bind_avoids fun _ => ?_
    exact avoids_handle (avoids_shown c)
  | getClass arg label? =>
    refine (keeps_classRef arg).bind_failsFirst fun ref => ?_
    refine (failsFirst_act (keeps_look _).failsFirst).bind_avoids fun c => ?_
    exact avoids_handle (avoids_introduced label? c)
  | nextMethodName arg => exact failsFirst_memberText arg _ _
  | nextFieldName arg => exact failsFirst_memberText arg _ _
  | nextVarName methodName =>
    exact failsFirst_drawText fun s => (avoids_drawVarName s methodName).leaves
  | randomType allowVoid =>
    have hkind : ∀ s, Avoids Fragment.Failure.IsRefusal (drawKind s allowVoid) :=
      fun s => avoids_drawKind s allowVoid
    exact (Avoids.bind_pure (avoids_act (avoids_draw hkind))).leaves
  | literal type => exact failsFirst_drawText fun s => failsFirst_drawValue s type
  | classDeclaration name parent? =>
    refine (keeps_handle (keeps_recordOf? parent?)).bind_failsFirst fun above => ?_
    exact (keeps_answerText _).failsFirst
  | methodDeclaration method declareThrows =>
    exact failsFirst_withRecord fun _ => (keeps_answerText _).failsFirst
  | fieldDeclaration field => exact failsFirst_withRecord fun _ => (keeps_answerText _).failsFirst
  | variableDeclaration target =>
    refine failsFirst_withRecord fun c => ?_
    refine (keeps_runTold _).bind_failsFirst fun w => ?_
    exact failsFirst_drawText fun s => failsFirst_variableDeclaration s (w.records.get c)
  | openBlock => exact (Keeps.pure _).failsFirst
  | closeBlock => exact (Keeps.pure _).failsFirst
  | semicolon => exact (Keeps.pure _).failsFirst
  | elseStatement => exact (Keeps.pure _).failsFirst
  | ifStatement condition => exact (Keeps.pure _).failsFirst
  | forStatement target bound start =>
    exact failsFirst_withRecord fun _ => (keeps_answerText _).failsFirst
  | defaultReturn type => exact failsFirst_drawText fun s => failsFirst_defaultReturn s type
  | throwStatement exception? message? => exact (keeps_answerText _).failsFirst
  | assignment method target args =>
    refine failsFirst_withRecord fun m => ?_
    refine failsFirst_withRecord fun c => ?_
    refine (keeps_handle (keeps_recordsOf args)).bind_failsFirst fun args => ?_
    exact (keeps_answerText _).failsFirst
  | methodCall method target args =>
    refine failsFirst_withRecord fun c => ?_
    refine failsFirst_withRecord fun m => ?_
    refine (keeps_handle (keeps_recordsOf args)).bind_failsFirst fun args => ?_
    refine (failsFirst_act (failsFirst_methodCall m c args)).bind_avoids fun site => ?_
    exact (avoids_act (avoids_valueOf c .available)).bind_pure

/-! ## What a refused operation leaves -/

/-- What an operation leaves that is refused.  A new class below a class that is above itself leaves
    what the allocation of its name alone leaves, anything else what there was before. -/
def Op.left : Op → Failure → Scene → Scene
  | session (.newClass _ _), .session (.ownAncestor _ _) => allocated
  | _, _ => id

/-- An operation that is refused leaves no trace: the records with all their attributes, the labels,
    the options and the session with its source, its registry, its count and its log are as they
    were, whatever they were.  Only a new class that would be above itself leaves its name
    allocated. -/
theorem eq_left_of_refused {op : Op} {s t : Scene} {f : Failure}
    (h : (perform op).run.run s = (.error f, t)) (hf : f.IsRefusal) : t = op.left f s := by
  have hresult : ((perform op).run.run s).1 = .error f := congrArg Prod.fst h
  obtain rfl : ((perform op).run.run s).2 = t := congrArg Prod.snd h
  cases op with
  | record op => exact failsFirst_handle (failsFirst_performRecord op) s f hresult hf
  | session op =>
    have hother := failsFirst_performSession op
    cases op with
    | newClass parent? label? =>
      obtain ⟨below, above, rfl⟩ := exists_ownAncestor_of_performNewClass hresult hf
      exact leaves_performNewClass parent? label? s _ hresult hf
    | _ => exact hother nofun s f hresult hf

/-- A session with a class named `A` that is its own parent. -/
def loopScene : Scene where
  bench := {
    session := {}
    settings := default
    source := .ofScript [1]
    records := ⟨#[.ofClass (.str "A") (.record ⟨0⟩) (.int 0) (.int 0)]⟩ }
  labels := .ofList [("a", ⟨0⟩)]

/-- A class below `A` is refused, and its name stays allocated. -/
theorem eq_left_of_refused_loop :
    let op : Op := .session (.newClass (some "a") none)
    ((perform op).run.run loopScene).1 = .error (.session (.ownAncestor "Class_0" "A")) ∧
      ((perform op).run.run loopScene).2 = allocated loopScene := by
  intro op
  have h : ((perform op).run.run loopScene).1 =
      .error (.session (.ownAncestor "Class_0" "A")) := rfl
  exact ⟨h, eq_left_of_refused (Prod.ext h rfl) trivial⟩

end Script

end JavaFragments
