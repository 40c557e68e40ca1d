import JavaFragments.Proofs.Effects.RefusedOperation
import JavaFragments.Proofs.Records.Descent

/-! # Operations that keep parents older

Of all that can be done with records and sessions only an assignment to a parent can bring a class
below a younger one.  Every other operation leaves classes below older ones if they were so before,
also where it fails:

* `Maintains.bind`   what holds after one computation and another
* `maintains_newClass`, `maintains_methodCall`   actions of a session
* `maintains_performRecord`, `maintains_performSession`   operations -/

namespace JavaFragments

variable {σ τ ε α β : Type} {I : σ → Prop}

/-- What holds of the state before a computation holds after it, also if it fails. -/
def Maintains (I : σ → Prop) (a : Doing ε σ α) : Prop := ∀ s, I s → I (a.run.run s).2

/-- What changes nothing maintains whatever holds. -/
private theorem Keeps.maintains {a : Doing ε σ α} (h : Keeps id a) : Maintains I a := fun s hs => by
  have hkept : (a.run.run s).2 = s := h s
  rw [hkept]
  exact hs

/-- What holds after a computation holds after another that maintains it. -/
theorem Maintains.bind {a : Doing ε σ α} {k : α → Doing ε σ β} (h : Maintains I a)
    (hk : ∀ x, Maintains I (k x)) : Maintains I (a >>= k) := by
  intro s hs
  have hfirst := h s hs
  apply run_bind_cases (motive := fun p => I p.2)
  · -- a failure of the first part leaves what the first part has done
    intro e t hrun
    rwa [hrun] at hfirst
  · intro x t hrun
    rw [hrun] at hfirst
    exact hk x t hfirst

/-- What is made of a result changes nothing more. -/
theorem Maintains.bind_pure {a : Doing ε σ α} {f : α → β} (h : Maintains I a) :
    Maintains I (a >>= fun x => pure (f x)) :=
  h.bind fun _ => (Keeps.pure _).maintains

namespace Session

open Fragment

/-- Classes are below older ones. -/
def Workbench.Descending (w : Workbench) : Prop := w.records.Descending

/-- What is told of the workbench keeps parents older. -/
private theorem maintains_look (f : Workbench → Except Failure α) :
    Maintains Workbench.Descending (Action.look f) := Keeps.maintains (keeps_look f)

/-- What changes the workbench but for its records. -/
private theorem maintains_change {f : Workbench → Workbench} (hf : ∀ w, (f w).records = w.records) :
    Maintains Workbench.Descending (Action.change f) := by
  intro w hw
  show (f w).records.Descending
  rw [hf]
  exact hw

/-- An assignment to an attribute does, as the parent is none. -/
private theorem maintains_assign (id : RecordId) (a : Attribute) (v : Value) :
    Maintains Workbench.Descending (Action.amend (·.assign id a v)) :=
  fun _ hw => Records.Descending.assign hw id a v

/-- A message that is logged does. -/
private theorem maintains_log (level : Level) (message : String) :
    Maintains Workbench.Descending (Action.log level message) := maintains_change fun _ => rfl

/-- A message that is noted does, also where it cannot be written. -/
private theorem maintains_note (level : Level) (message : Except Number.TooLong String) :
    Maintains Workbench.Descending (Action.note level message) := by
  cases message with
  | ok message => exact maintains_log level message
  | error e => exact maintains_change fun _ => rfl

/-- A draw does, as it leaves the records alone. -/
private theorem maintains_draw (d : Settings → Draw α) :
    Maintains Workbench.Descending (Action.draw d) := fun _ hw => hw

/-- A class name is allocated for a class without a parent. -/
private theorem maintains_nextClassName : Maintains Workbench.Descending nextClassName := by
  intro w hw
  -- the registry and the log are no records
  show (w.records.add (.ofClass (.str (classNameOf w.session.classCount)) (.value .null)
    (.int 0) (.int 0))).2.Descending
  exact hw.add (fun _ => ⟨none, rfl, nofun⟩) fun hsort => absurd rfl hsort

/-- A registration assigns numbers, and changes the registry. -/
private theorem maintains_registerClass (c : RecordId) :
    Maintains Workbench.Descending (registerClass c) := by
  have htakeOver : ∀ (other : RecordId) (a : Attribute),
      Maintains Workbench.Descending (takeOver c other a) := by
    intro other a
    refine (maintains_look _).bind fun own => ?_
    refine (maintains_look _).bind fun known => ?_
    refine (maintains_look _).bind fun number => ?_
    exact maintains_assign c a number
  have henter : ∀ (name : Value) (key : Key), Maintains Workbench.Descending
      (Action.change fun w => { w with
        session := { w.session with registry := w.session.registry.enter name key c } }) :=
    fun _ _ => maintains_change fun _ => rfl
  refine (maintains_look _).bind fun name => ?_
  refine (maintains_look _).bind fun key => ?_
  refine (maintains_look _).bind fun known? => ?_
  -- what is registered under the name already gives up its numbers first
  cases known? with
  | none => exact henter name key
  | some known =>
    simp only
    split
    · refine (htakeOver known .methodCount).bind fun _ => ?_
      refine (htakeOver known .fieldCount).bind fun _ => ?_
      exact henter name key
    · exact henter name key

/-- A class that is built and then put into the place of what it was built from. -/
private theorem maintains_build (name : Value) (parent? : Option RecordId) :
    Maintains Workbench.Descending (do
      let (c, records) ← Action.look fun w => buildClass w.records name parent? (.int 0) (.int 0)
      Action.amend fun _ => records
      registerClass c
      return c) := by
  intro w hw
  show (Action.result _ w).2.Descending
  rw [Action.result_bind, Action.result_look]
  cases hbuild : buildClass w.records name parent? (.int 0) (.int 0) with
  | error f => exact hw
  | ok built =>
    -- the class that was built is below an older one, and it is registered as it is
    have hbuilt : built.2.Descending := Records.Descending.buildClass hw hbuild
    exact (maintains_registerClass built.1).bind_pure { w with records := built.2 } hbuilt

/-- A new class is below an older one. -/
theorem maintains_newClass (parent? : Option RecordId) :
    Maintains Workbench.Descending (newClass parent?) :=
  maintains_nextClassName.bind fun name => maintains_build (.str name) parent?

/-- The name of a member is allocated by an assignment to a number. -/
private theorem maintains_nextMemberName (ref : ClassRef) (sort : String) (a : Attribute) :
    Maintains Workbench.Descending (nextMemberName ref sort a) := by
  refine (maintains_look _).bind fun c => ?_
  refine (maintains_look _).bind fun className => ?_
  refine (maintains_look _).bind fun number => ?_
  refine (maintains_look _).bind fun name => ?_
  refine (maintains_look _).bind fun next => ?_
  exact (maintains_assign c a next).bind_pure

/-- A variable is marked by an assignment. -/
private theorem maintains_markUnavailable (target : RecordId) :
    Maintains Workbench.Descending (markUnavailable target) := by
  refine (maintains_look _).bind fun declared => ?_
  -- a variable that is declared is left alone
  split
  · exact maintains_assign target .available _
  · exact (Keeps.pure _).maintains

/-- A call assigns nothing but that its variable is not available. -/
theorem maintains_methodCall (m target : RecordId) (args : List RecordId) :
    Maintains Workbench.Descending (methodCall m target args) := by
  refine (maintains_look _).bind fun method => ?_
  refine (maintains_look _).bind fun statement => ?_
  refine (maintains_look _).bind fun throws => ?_
  split
  · exact (Keeps.pure _).maintains
  -- the method throws, and a draw decides whether the call is wrapped
  refine (maintains_draw _).bind fun u => ?_
  refine (maintains_look _).bind fun weight => ?_
  refine (maintains_look _).bind fun wrapped => ?_
  split
  · refine (maintains_markUnavailable target).bind fun _ => ?_
    refine (maintains_look _).bind fun callee => ?_
    exact (maintains_log _ _).bind_pure
  · refine (maintains_look _).bind fun callee => ?_
    refine (maintains_look _).bind fun into => ?_
    exact (maintains_log _ _).bind_pure

/-- A source that is started again changes no record. -/
theorem maintains_reseed : Maintains Workbench.Descending reseed :=
  (maintains_look _).bind fun _ => maintains_change fun _ => rfl

/-- The announcement of a session changes no record. -/
theorem maintains_announce : Maintains Workbench.Descending announce := by
  refine (maintains_look _).bind fun seed => ?_
  refine (maintains_note _ _).bind fun _ => ?_
  refine (maintains_look _).bind fun weight => ?_
  -- whether there is a warning depends on the weight, the records not at all
  split
  · exact maintains_note _ _
  · split
    · exact maintains_note _ _
    · exact (Keeps.pure _).maintains

/-- A reset changes no record. -/
private theorem maintains_reset : Maintains Workbench.Descending reset := by
  refine Maintains.bind (maintains_change fun _ => rfl) fun _ => ?_
  refine maintains_reseed.bind fun _ => ?_
  refine (maintains_look _).bind fun seed => ?_
  exact maintains_note _ _

end Session

namespace Script

open Fragment Session

/-! ## Operations on records -/

/-- Classes are below older ones. -/
def Shelf.Descending (s : Shelf) : Prop := s.records.Descending

/-- A new record that is no class has no parent. -/
private theorem maintains_addOther {d : Record} (hsort : d.sort ≠ .classDecl)
    (hparent : d.parent? = none) :
    Maintains Shelf.Descending (Handling.add (·.add d)) :=
  fun _ hs => Records.Descending.addOther hs hsort hparent

/-- A change of the records that keeps parents older. -/
private theorem maintains_amend {f : Records → Records}
    (hf : ∀ r, r.Descending → (f r).Descending) :
    Maintains Shelf.Descending (Handling.amend f) := fun s hs => hf s.records hs

/-- What is told of the records is put into their place. -/
private theorem maintains_told_amend {f : Records → Except Fragment.Failure α}
    {g : α → Records → Records} {k : α → Handling β}
    (hf : ∀ r a, r.Descending → f r = .ok a → (g a r).Descending)
    (hk : ∀ a, Maintains Shelf.Descending (k a)) :
    Maintains Shelf.Descending (do
      let a ← Handling.told f
      Handling.amend (g a)
      k a) := by
  intro s hs
  apply run_bind_cases (motive := fun p => Shelf.Descending p.2)
  · -- what was told is a failure, and nothing has changed
    intro e t hrun
    obtain rfl : s = t := congrArg Prod.snd hrun
    exact hs
  · intro a t hrun
    obtain rfl : s = t := congrArg Prod.snd hrun
    -- what was told of these records is what the change is made with
    have ha : f s.records = .ok a := by
      have htold : (f s.records).mapError Failure.session = .ok a := congrArg Prod.fst hrun
      cases hr : f s.records with
      | error e =>
        rw [hr] at htold
        cases htold
      | ok b =>
        rw [hr] at htold
        exact congrArg _ (Except.ok.inj htold)
    exact hk a { s with records := g a s.records } (hf s.records a hs ha)

/-- A label refers to a record and changes none. -/
private theorem maintains_introduced (label? : Option Label) (id : RecordId) :
    Maintains Shelf.Descending (introduced label? id) := by
  have hlabel : Maintains Shelf.Descending (Handling.label label? id) := by
    intro s hs
    cases label? <;> exact hs
  exact hlabel.bind fun _ => (keeps_shown id).maintains

/-- An assignment to a part other than the parent leaves the sort and the parent. -/
private theorem sameParent_of_assign {part : Part} (hpart : part ≠ .parent) {d d' : Record}
    {v : Value} (h : part.assign d v = .ok d') : d'.sort = d.sort ∧ d'.parent? = d.parent? := by
  cases part with
  | parent => exact absurd rfl hpart
  | reserved a => cases h
  | _ =>
    obtain rfl := Except.ok.inj h
    exact ⟨rfl, rfl⟩

/-- An operation that assigns to a parent. -/
def RecordOp.SetsParent : RecordOp → Prop
  | setParent _ _ => True
  | assign _ .parent _ => True
  | _ => False

/-- Every operation on records but an assignment to a parent keeps parents older. -/
theorem maintains_performRecord {op : RecordOp} (hop : ¬ op.SetsParent) :
    Maintains Shelf.Descending (performRecord op) := by
  cases op with
  | addClass name parent? methodCount fieldCount label? =>
    refine (keeps_recordOf? parent?).maintains.bind fun above => ?_
    refine maintains_told_amend (g := fun (built : RecordId × Records) _ => built.2)
      (fun r built hr hbuild => ?_) fun built => ?_
    · -- the parent of a new class is there already, so it is older
      exact Records.Descending.buildClass hr hbuild
    · exact maintains_introduced label? built.1
  | addMethod name returnType body params owner throws label? =>
    -- only classes have parents
    have hsort : RecordSort.methodDecl ≠ .classDecl := nofun
    refine (keeps_recordsOf params).maintains.bind fun params => ?_
    refine (maintains_addOther hsort rfl).bind fun m => ?_
    exact maintains_introduced label? m
  | addField name type initialValue label? =>
    have hsort : RecordSort.fieldDecl ≠ .classDecl := nofun
    exact (maintains_addOther hsort rfl).bind fun f => maintains_introduced label? f
  | addVar name type declared available label? =>
    have hsort : RecordSort.localVar ≠ .classDecl := nofun
    exact (maintains_addOther hsort rfl).bind fun v => maintains_introduced label? v
  | view label => exact Keeps.maintains ((keeps_recordOf label).bind keeps_shown)
  | assign label part v =>
    -- an assignment to the parent would set it
    have hpart : part ≠ .parent := by
      rintro rfl
      exact hop trivial
    refine (keeps_recordOf label).maintains.bind fun id => ?_
    refine maintains_told_amend (g := fun d r => r.modify id fun _ => d)
      (fun r d hr hassign => ?_) fun _ => (Keeps.pure _).maintains
    exact hr.modify (sameParent_of_assign hpart (orMisuse_eq_ok.1 hassign))
  | setParent label parent? => exact absurd trivial hop
  | ancestors label =>
    refine (keeps_actorOf .ancestors label).maintains.bind fun c => ?_
    exact (keeps_act _ c _).bind_pure.maintains
  | isRoot label =>
    refine (keeps_actorOf .isRoot label).maintains.bind fun c => ?_
    exact (keeps_act _ c _).bind_pure.maintains
  | attachField label field =>
    refine (keeps_actorOf .attachField label).maintains.bind fun c => ?_
    refine (keeps_recordOf field).maintains.bind fun member => ?_
    refine maintains_told_amend (g := fun attached _ => attached)
      (fun r attached hr hattach => ?_) fun _ => (keeps_shown member).maintains
    -- the class has checked that it can do that before it did it
    rw [bind_eq_ok_iff] at hattach
    obtain ⟨-, -, hattach⟩ := hattach
    exact Records.Descending.attachField hr (orMisuse_eq_ok.1 hattach)
  | attachMethod label method =>
    refine (keeps_actorOf .attachMethod label).maintains.bind fun c => ?_
    refine (keeps_recordOf method).maintains.bind fun member => ?_
    refine (keeps_act _ c _).maintains.bind fun _ => ?_
    refine (maintains_amend fun r hr => hr.assign member .owner _).bind fun _ => ?_
    refine maintains_told_amend (g := fun attached _ => attached)
      (fun r attached hr hattach => ?_) fun _ => (keeps_shown member).maintains
    exact Records.Descending.attachMethod hr (orMisuse_eq_ok.1 hattach)
  | same a b =>
    refine (keeps_recordOf a).maintains.bind fun a => ?_
    refine (keeps_recordOf b).maintains.bind fun b => ?_
    exact (keeps_told _).bind_pure.maintains
  | typePrefix target =>
    refine (keeps_recordOf target).maintains.bind fun c => ?_
    exact (keeps_told _).bind_pure.maintains
  | argumentText args =>
    refine (keeps_recordsOf args).maintains.bind fun args => ?_
    exact (keeps_told _).bind_pure.maintains
  | javaType type => exact (keeps_told _).bind_pure.maintains

/-! ## Operations of a session -/

/-- Classes are below older ones. -/
def Scene.Descending (s : Scene) : Prop := s.bench.records.Descending

/-- An action that keeps parents older keeps them so in a scene. -/
private theorem maintains_act {a : Action α} (h : Maintains Workbench.Descending a) :
    Maintains Scene.Descending (Run.act a) := fun s hs => h s.bench hs

/-- What is done with the records keeps them so in a scene as it does on the shelf. -/
private theorem maintains_handle {h : Handling α} (hh : Maintains Shelf.Descending h) :
    Maintains Scene.Descending (Run.handle h) := fun s hs => hh s.shelf hs

/-- A text that is drawn. -/
private theorem maintains_drawText (d : Settings → Draw String) :
    Maintains Scene.Descending (do return Answer.text (← Run.act (Action.draw d))) :=
  (maintains_act (maintains_draw d)).bind_pure

/-- The name of a member of a class that is referred to. -/
private theorem maintains_memberText (arg : ClassArg) (sort : String) (a : Attribute) :
    Maintains Scene.Descending
      (do let ref ← classRef arg; return Answer.text (← Run.act (nextMemberName ref sort a))) := by
  refine (keeps_classRef arg).maintains.bind fun ref => ?_
  exact (maintains_act (maintains_nextMemberName ref sort a)).bind_pure

/-- What is done with the record under a label. -/
private theorem maintains_withRecord {label : Label} {k : RecordId → Run α}
    (hk : ∀ id, Maintains Scene.Descending (k id)) :
    Maintains Scene.Descending (Run.handle (recordOf label) >>= k) :=
  (keeps_handle (keeps_recordOf label)).maintains.bind hk

/-- Every operation of a session keeps parents older. -/
theorem maintains_performSession (op : SessionOp) :
    Maintains Scene.Descending (performSession op) := by
  cases op with
  -- what the session does on its workbench
  | reset => exact (maintains_act maintains_reset).bind_pure
  | dump =>
    refine (keeps_runTold _).maintains.bind fun seed => ?_
    refine (keeps_runTold _).maintains.bind fun classes => ?_
    exact (keeps_runTold _).bind_pure.maintains
  | setOption target v =>
    refine (keeps_runTold _).maintains.bind fun settings => ?_
    exact Maintains.bind_pure (maintains_act (maintains_change fun _ => rfl))
  | options =>
    refine (keeps_runTold _).maintains.bind fun w => ?_
    split
    · exact (Keeps.pure _).maintains
    · exact (Keeps.throw _).maintains
  | random => exact (maintains_act (maintains_draw _)).bind_pure
  | draws => exact (keeps_runTold _).bind_pure.maintains
  | nextClassName => exact (maintains_act maintains_nextClassName).bind_pure
  | newClass parent? label? =>
    refine (keeps_handle (keeps_recordOf? parent?)).maintains.bind fun above => ?_
    refine (maintains_act (maintains_newClass above)).bind fun c => ?_
    exact maintains_handle (maintains_introduced label? c)
  | registerClass label =>
    refine maintains_withRecord fun c => ?_
    refine (maintains_act (maintains_registerClass c)).bind fun _ => ?_
    exact (keeps_handle (keeps_shown c)).maintains
  | getClass arg label? =>
    refine (keeps_classRef arg).maintains.bind fun ref => ?_
    refine (maintains_act (maintains_look _)).bind fun c => ?_
    exact maintains_handle (maintains_introduced label? c)
  | nextMethodName arg => exact maintains_memberText arg _ _
  | nextFieldName arg => exact maintains_memberText arg _ _
  | nextVarName methodName => exact maintains_drawText _
  | randomType allowVoid => exact (maintains_act (maintains_draw _)).bind_pure
  | literal type => exact maintains_drawText _
  -- texts are written without a change
  | classDeclaration name parent? =>
    refine (keeps_handle (keeps_recordOf? parent?)).maintains.bind fun above => ?_
    exact (keeps_answerText _).maintains
  | methodDeclaration method declareThrows =>
    exact maintains_withRecord fun _ => (keeps_answerText _).maintains
  | fieldDeclaration field => exact maintains_withRecord fun _ => (keeps_answerText _).maintains
  | variableDeclaration target =>
    refine maintains_withRecord fun c => ?_
    refine (keeps_runTold _).maintains.bind fun w => ?_
    exact maintains_drawText _
  | openBlock => exact (Keeps.pure _).maintains
  | closeBlock => exact (Keeps.pure _).maintains
  | semicolon => exact (Keeps.pure _).maintains
  | elseStatement => exact (Keeps.pure _).maintains
  | ifStatement condition => exact (Keeps.pure _).maintains
  | forStatement target bound start =>
    exact maintains_withRecord fun _ => (keeps_answerText _).maintains
  | defaultReturn type => exact maintains_drawText _
  | throwStatement exception? message? => exact (keeps_answerText _).maintains
  | assignment method target args =>
    refine maintains_withRecord fun m => ?_
    refine maintains_withRecord fun c => ?_
    refine (keeps_handle (keeps_recordsOf args)).maintains.bind fun args => ?_
    exact (keeps_answerText _).maintains
  | methodCall method target args =>
    refine maintains_withRecord fun c => ?_
    refine maintains_withRecord fun m => ?_
    refine (keeps_handle (keeps_recordsOf args)).maintains.bind fun args => ?_
    refine (maintains_act (maintains_methodCall m c args)).bind fun site => ?_
    exact (maintains_act (maintains_look _)).bind_pure

end Script

end JavaFragments
