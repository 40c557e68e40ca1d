import JavaFragments.Proofs.Replay.Actions
import JavaFragments.Proofs.Replay.Handling
import JavaFragments.Script.Perform

/-! # Operations of a session behind what others have left

An operation of a session answers what it answers without the others, unless it asks for the
number of draws, and keeps the seed, the settings and the kind of source, unless it sets an
option:

* `follows_performSession`, `follows_perform`   an operation that does neither
* `performAll_behind`                           operations one after the other
* `keeps_performAll`                            what they keep -/

namespace JavaFragments.Script

open Fragment Session

/-- A scene behind what others have left. -/
def Scene.behind (l : Leftover) (s : Scene) : Scene where
  bench := s.bench.behind l
  labels := s.labels.map (RecordId.behind l.size)

/-- A scene behind what others have left. -/
def sceneOverlay (l : Leftover) : Overlay Scene where
  place := Scene.behind l
  keeps s t := (benchOverlay l).keeps s.bench t.bench
  refl s := (benchOverlay l).refl s.bench
  trans := (benchOverlay l).trans

variable {l : Leftover}

/-- What is done on the workbench is done in the scene. -/
private theorem follows_runAct {α β : Type} {f : α → β} {a : Action α} {b : Action β}
    (h : Follows (benchOverlay l) f a b) : Follows (sceneOverlay l) f (Run.act a) (Run.act b) where
  result s := by
    show ((b.run.run (s.bench.behind l)).1.mapError Failure.session,
      { s.behind l with bench := (b.run.run (s.bench.behind l)).2 }) = _
    rw [show s.bench.behind l = (benchOverlay l).place s.bench from rfl, h.result]
    show (((a.run.run s.bench).1.map f).mapError Failure.session, _) =
      (((a.run.run s.bench).1.mapError Failure.session).map f, _)
    cases (a.run.run s.bench).1 <;> rfl
  keeps s := h.keeps s.bench

/-- What is done with records is done in the scene. -/
theorem follows_handle {α β : Type} {f : α → β} {a : Handling α} {b : Handling β}
    (h : Follows (shelfOverlay l.records) f a b) :
    Follows (sceneOverlay l) f (Run.handle a) (Run.handle b) where
  result s := by
    show ((b.run.run ((s.shelf).behind l.records)).1,
      (s.behind l).withShelf (b.run.run ((s.shelf).behind l.records)).2) = _
    rw [show s.shelf.behind l.records = (shelfOverlay l.records).place s.shelf from rfl, h.result]
    rfl
  keeps s := ⟨rfl, rfl, .refl _⟩

/-- What is told of the workbench is told in the scene. -/
private theorem follows_runTold {α β : Type} {f : α → β} {g : Workbench → Except Fragment.Failure α}
    {h : Workbench → Except Fragment.Failure β} (hgh : ∀ w, h (w.behind l) = (g w).map f) :
    Follows (sceneOverlay l) f (Run.told g) (Run.told h) :=
  follows_runAct (Session.follows_look hgh)

/-- A text that is told is the same behind others. -/
private theorem follows_answerText {g h : Workbench → Except Fragment.Failure String}
    (hgh : ∀ w, h (w.behind l) = g w) :
    Follows (sceneOverlay l) id (answerText g) (answerText h) :=
  (follows_runAct (follows_look_same hgh)).bind fun s => Follows.pure (Answer.text s)

/-- The workbench of a scene is put behind what others have left together with the scene. -/
private theorem follows_workbench :
    Follows (sceneOverlay l) (Workbench.behind l) workbench workbench :=
  follows_runTold fun _ => rfl

/-- A label in the place of a class refers to the record that has moved, and a name to whatever
    is registered under it. -/
private theorem follows_classRef (arg : ClassArg) :
    Follows (sceneOverlay l) (ClassRef.behind l.size) (classRef arg) (classRef arg) := by
  cases arg with
  | labelled label =>
    exact (follows_handle (follows_recordOf label)).bind fun c => Follows.pure (ClassRef.record c)
  | named v => exact Follows.pure (ClassRef.named v)

/-! ## Operations of a session -/

/-- What is shown of the registered classes does not depend on their places. -/
private theorem registryView_behind (w : Workbench) :
    registryView (w.behind l) = registryView w := by
  -- a class is shown without its place
  have hview : ∀ c, (w.behind l).records.view (c.behind l.size) = w.records.view c :=
    Records.view_behind l.records w.records
  unfold registryView
  show ((w.session.registry.entries.map fun e => (e.1, e.2.behind l.size)).mapM _) = _
  rw [List.mapM_map]
  apply congrArg (List.mapM · w.session.registry.entries)
  funext e
  simp only [Function.comp, Registration.behind, hview]

/-- The seed, the number of classes and the registered classes are shown as without others. -/
private theorem follows_dump :
    Follows (sceneOverlay l) id (performSession .dump) (performSession .dump) := by
  have hseed : Follows (sceneOverlay l) id (Run.told fun w => showable w.session.seed)
      (Run.told fun w => showable w.session.seed) :=
    follows_runAct (follows_look_same fun _ => rfl)
  have hclasses : Follows (sceneOverlay l) id (Run.told registryView) (Run.told registryView) :=
    follows_runAct (follows_look_same registryView_behind)
  -- the number of classes is the session's own
  refine hseed.bind fun seed => ?_
  refine hclasses.bind fun classes => ?_
  refine follows_workbench.bind fun w => ?_
  exact Follows.pure (Answer.registry seed w.session.classCount classes)

/-- The options are listed as without others. -/
private theorem follows_options :
    Follows (sceneOverlay l) id (performSession .options) (performSession .options) := by
  refine follows_workbench.bind fun w => ?_
  have hlisting : (w.behind l).settings.listing = w.settings.listing := rfl
  rw [hlisting]
  -- the listing fails where a number is too long
  cases w.settings.listing with
  | ok listing => exact Follows.pure _
  | error e => exact Follows.throw _

/-- A method is declared behind others as without them. -/
private theorem follows_methodDeclaration (method : Label) (declareThrows : Option Bool) :
    Follows (sceneOverlay l) id (performSession (.methodDeclaration method declareThrows))
      (performSession (.methodDeclaration method declareThrows)) := by
  refine (follows_handle (follows_recordOf method)).bind fun c => ?_
  apply follows_answerText
  intro w
  rw [get_records_behind]
  rfl

/-- A variable is declared behind others with the same value. -/
theorem follows_variableDeclaration (target : Label) :
    Follows (sceneOverlay l) id (performSession (.variableDeclaration target))
      (performSession (.variableDeclaration target)) := by
  refine (follows_handle (follows_recordOf target)).bind fun c => ?_
  refine follows_workbench.bind fun w => ?_
  have hdraw : Follows (sceneOverlay l) id
      (Run.act (Action.draw (Fragment.variableDeclaration · (w.records.get c))))
      (Run.act (Action.draw (Fragment.variableDeclaration ·
        ((w.behind l).records.get (c.behind l.size))))) := by
    rw [get_records_behind]
    exact follows_runAct (follows_draw fun s => Fragment.follows_variableDeclaration s _)
  exact hdraw.bind fun s => Follows.pure (Answer.text s)

/-- An assignment is written behind others as without them. -/
private theorem follows_assignment (method target : Label) (args : List Label) :
    Follows (sceneOverlay l) id (performSession (.assignment method target args))
      (performSession (.assignment method target args)) := by
  refine (follows_handle (follows_recordOf method)).bind fun m => ?_
  refine (follows_handle (follows_recordOf target)).bind fun target => ?_
  refine (follows_handle (follows_recordsOf args)).bind fun args => ?_
  apply follows_answerText
  intro w
  rw [get_records_behind, get_records_behind, map_nameOf_behind]
  rfl

/-- A call is answered behind others as without them. -/
private theorem follows_performMethodCall (method target : Label) (args : List Label) :
    Follows (sceneOverlay l) id (performSession (.methodCall method target args))
      (performSession (.methodCall method target args)) := by
  refine (follows_handle (follows_recordOf target)).bind fun target => ?_
  refine (follows_handle (follows_recordOf method)).bind fun m => ?_
  refine (follows_handle (follows_recordsOf args)).bind fun args => ?_
  refine (follows_runAct (follows_methodCall m target args)).bind fun site => ?_
  refine (follows_runAct (follows_valueOf target .available)).bind fun available => ?_
  exact Follows.pure (Answer.call site available)

/-- A text that is drawn is the same behind others. -/
private theorem follows_drawText {d : Settings → Draw String}
    (hd : ∀ s, Fragment.DrawFollows l.draws (d s)) :
    Follows (sceneOverlay l) id (do return Answer.text (← Run.act (Action.draw d)))
      (do return Answer.text (← Run.act (Action.draw d))) :=
  (follows_runAct (follows_draw hd)).bind fun s => Follows.pure (Answer.text s)

/-- A text that is given out for a class that is referred to. -/
private theorem follows_memberText (arg : ClassArg) (sort : String) (a : Attribute) :
    Follows (sceneOverlay l) id
      (do let ref ← classRef arg; return Answer.text (← Run.act (nextMemberName ref sort a)))
      (do let ref ← classRef arg; return Answer.text (← Run.act (nextMemberName ref sort a))) := by
  refine (follows_classRef arg).bind fun ref => ?_
  refine (follows_runAct (follows_nextMemberName ref sort a)).bind fun s => ?_
  exact Follows.pure (Answer.text s)

/-- Every operation that neither sets an option nor asks for the number of draws answers what it
    answers without others. -/
theorem follows_performSession {op : SessionOp} (hset : ∀ target v, op ≠ .setOption target v)
    (hdraws : op ≠ .draws) :
    Follows (sceneOverlay l) id (performSession op) (performSession op) := by
  cases op with
  -- two operations are left out: one changes what is kept, the other one asks for what differs
  | setOption target v => exact absurd rfl (hset target v)
  | draws => exact absurd rfl hdraws
  | reset => exact (follows_runAct follows_reset).bind fun _ => Follows.pure Answer.done
  | dump => exact follows_dump
  | options => exact follows_options
  | random =>
    refine (follows_runAct (follows_draw fun _ => Fragment.follows_random)).bind fun x => ?_
    exact Follows.pure (Answer.float x)
  | nextClassName =>
    exact (follows_runAct follows_nextClassName).bind fun s => Follows.pure (Answer.text s)
  | newClass parent? label? =>
    refine (follows_handle (follows_recordOf? parent?)).bind fun parent? => ?_
    refine (follows_runAct (follows_newClass parent?)).bind fun c => ?_
    exact follows_handle (follows_introduced label? c)
  | registerClass label =>
    refine (follows_handle (follows_recordOf label)).bind fun c => ?_
    refine (follows_runAct (follows_registerClass c)).bind fun _ => ?_
    exact follows_handle (follows_shown c)
  | getClass arg label? =>
    refine (follows_classRef arg).bind fun ref => ?_
    refine (follows_runAct (follows_getClass ref)).bind fun c => ?_
    exact follows_handle (follows_introduced label? c)
  | nextMethodName arg => exact follows_memberText arg _ _
  | nextFieldName arg => exact follows_memberText arg _ _
  | nextVarName methodName =>
    exact follows_drawText fun s => Fragment.follows_drawVarName s methodName
  | randomType allowVoid =>
    have hkind := follows_draw fun s => Fragment.follows_drawKind (n := l.draws) s allowVoid
    exact (follows_runAct hkind).bind fun k => Follows.pure (Answer.kind k)
  | literal type => exact follows_drawText fun s => Fragment.follows_drawValue s type
  | classDeclaration name parent? =>
    refine (follows_handle (follows_recordOf? parent?)).bind fun parent? => ?_
    refine follows_answerText fun w => ?_
    cases parent? with
    | none => rfl
    | some c => simp only [Option.map_some, nameOf_records_behind]
  | methodDeclaration method declareThrows => exact follows_methodDeclaration method declareThrows
  | fieldDeclaration field =>
    refine (follows_handle (follows_recordOf field)).bind fun c => ?_
    refine follows_answerText fun w => ?_
    rw [get_records_behind]
    rfl
  | variableDeclaration target => exact follows_variableDeclaration target
  | openBlock => exact Follows.pure _
  | closeBlock => exact Follows.pure _
  | semicolon => exact Follows.pure _
  | elseStatement => exact Follows.pure _
  | ifStatement condition => exact Follows.pure _
  | forStatement target bound start =>
    refine (follows_handle (follows_recordOf target)).bind fun c => ?_
    refine follows_answerText fun w => ?_
    rw [get_records_behind]
    rfl
  | defaultReturn type => exact follows_drawText fun s => Fragment.follows_defaultReturn s type
  | throwStatement exception? message? => exact follows_answerText fun _ => rfl
  | assignment method target args => exact follows_assignment method target args
  | methodCall method target args => exact follows_performMethodCall method target args

/-- The same of every operation, on records or of the session. -/
theorem follows_perform {op : Op} (hset : ∀ target v, op ≠ .session (.setOption target v))
    (hdraws : op ≠ .session .draws) : Follows (sceneOverlay l) id (perform op) (perform op) := by
  cases op with
  | record op => exact follows_handle (follows_performRecord op)
  | session op =>
    apply follows_performSession
    · intro target v h
      exact hset target v (congrArg Op.session h)
    · intro h
      exact hdraws (congrArg Op.session h)

/-! ## Operations one after the other -/

/-- What the setting of an option does. -/
private theorem run_setOption (target : Options.Assignable) (v : Value) (s : Scene) :
    (performSession (.setOption target v)).run.run s =
      match orMisuse (target.assignSettings v s.bench.settings) with
      | .ok settings => (.ok .done, { s with bench := { s.bench with settings := settings } })
      | .error f => (.error (.session f), s) := by
  rw [performSession, run_bind]
  have htold : (Run.told fun w => orMisuse (target.assignSettings v w.settings)).run.run s =
      ((orMisuse (target.assignSettings v s.bench.settings)).mapError Failure.session, s) := rfl
  rw [htold]
  -- a value that does not do is refused without a change
  cases orMisuse (target.assignSettings v s.bench.settings) <;> rfl

/-- The setting of an option does not look at the records either. -/
private theorem result_setOption (target : Options.Assignable) (v : Value) (s : Scene) :
    (performSession (.setOption target v)).run.run (s.behind l) =
      (((performSession (.setOption target v)).run.run s).1,
        ((performSession (.setOption target v)).run.run s).2.behind l) := by
  have hsettings : (s.behind l).bench.settings = s.bench.settings := rfl
  rw [run_setOption, run_setOption, hsettings]
  cases orMisuse (target.assignSettings v s.bench.settings) <;> rfl

/-- Every operation answers what it answers without others, unless it asks for the number of
    draws. -/
theorem perform_behind {op : Op} (hdraws : op ≠ .session .draws) (s : Scene) :
    (perform op).run.run (s.behind l) =
      (((perform op).run.run s).1, ((perform op).run.run s).2.behind l) := by
  -- the setting of an option changes what every other operation keeps
  by_cases hset : ∃ target v, op = .session (.setOption target v)
  · obtain ⟨target, v, rfl⟩ := hset
    exact result_setOption target v s
  · have hnone : ∀ target v, op ≠ .session (.setOption target v) := fun target v h =>
      hset ⟨target, v, h⟩
    have hresult := (follows_perform (l := l) hnone hdraws).result s
    have hsame : ((perform op).run.run s).1.map id = ((perform op).run.run s).1 := by
      cases ((perform op).run.run s).1 <;> rfl
    rw [hsame] at hresult
    exact hresult

/-- Operations answer what they answer without others, and leave what they leave then. -/
theorem performAll_behind {ops : List Op} (hdraws : .session .draws ∉ ops) (s : Scene) :
    performAll ops (s.behind l) = ((performAll ops s).1, (performAll ops s).2.behind l) := by
  -- each operation starts behind the same others
  induction ops generalizing s with
  | nil => rfl
  | cons op ops ih =>
    simp only [List.mem_cons, not_or] at hdraws
    simp only [performAll, perform_behind (Ne.symm hdraws.1) s, ih hdraws.2]
    rfl

/-- No operation but the setting of an option changes the seed, the settings or the kind of
    source. -/
theorem keeps_perform {op : Op} (hset : ∀ target v, op ≠ .session (.setOption target v))
    (s : Scene) : (sceneOverlay l).keeps s ((perform op).run.run s).2 := by
  by_cases hdraws : op = .session .draws
  · subst hdraws
    exact (sceneOverlay l).refl s
  · exact (follows_perform hset hdraws).keeps s

/-- Operations one after the other do not change them either. -/
theorem keeps_performAll {ops : List Op} (hset : ∀ target v, .session (.setOption target v) ∉ ops)
    (s : Scene) : (sceneOverlay l).keeps s (performAll ops s).2 := by
  -- what one operation keeps and what the rest keeps is the same
  induction ops generalizing s with
  | nil => exact (sceneOverlay l).refl s
  | cons op ops ih =>
    have hop : ∀ target v, op ≠ .session (.setOption target v) := fun target v h =>
      hset target v (h ▸ List.mem_cons_self)
    have hops : ∀ target v, .session (.setOption target v) ∉ ops := fun target v h =>
      hset target v (List.mem_cons_of_mem _ h)
    exact (sceneOverlay l).trans (keeps_perform hop s) (ih hops _)

end JavaFragments.Script
