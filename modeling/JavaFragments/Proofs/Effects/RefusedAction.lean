import JavaFragments.Proofs.Effects.Refusal
import JavaFragments.Proofs.Naming.Run
import JavaFragments.Session.Calls
import JavaFragments.Session.Lifecycle

/-! # Refused actions of a session

What a session is asked to do is refused before it has changed anything.  Only a new class is
refused later, when its name was allocated already:

* `failsFirst_registerClass`, `failsFirst_nextMemberName`   naming
* `leaves_newClass`        what a new class leaves
* `exists_ownAncestor_of_newClass`   and why it is refused
* `failsFirst_methodCall`  a call is refused before a number is drawn for it -/

namespace JavaFragments

namespace Session

open Fragment

variable {α τ : Type} {see : Workbench → τ}

/-! ## The parts of actions -/

/-- What is told of the workbench changes nothing. -/
theorem keeps_look (f : Workbench → Except Failure α) : Keeps see (Action.look f) := fun _ => rfl

/-- What is told of the workbench is no refusal if it never is one. -/
private theorem avoids_look {f : Workbench → Except Failure α}
    (h : ∀ w, Spares Failure.IsRefusal (f w)) : Avoids Failure.IsRefusal (Action.look f) := h

/-- A change of the workbench does not fail. -/
theorem avoids_change (f : Workbench → Workbench) : Avoids Failure.IsRefusal (Action.change f) :=
  fun _ => .ok ()

/-- Misuse is no refusal, unless a value that is no key is asked for. -/
private theorem avoids_orMisuse {r : Except Misuse α} (h : Spares Misuse.IsNoKey r) :
    Avoids Failure.IsRefusal (Action.orMisuse r) := avoids_look fun _ => spares_orMisuse h

/-- What a value does changes nothing. -/
theorem keeps_orMisuse (r : Except Misuse α) : Keeps see (Action.orMisuse r) := keeps_look _

/-- An attribute is read without a change. -/
theorem keeps_valueOf (c : RecordId) (a : Attribute) : Keeps see (valueOf c a) := keeps_look _

/-- An attribute that is not there is no refusal. -/
theorem avoids_valueOf (id : RecordId) (a : Attribute) :
    Avoids Failure.IsRefusal (valueOf id a) := avoids_look fun _ => spares_attribute _ a

/-- A change of the records does not fail. -/
private theorem avoids_amend (f : Records → Records) : Avoids Failure.IsRefusal (Action.amend f) :=
  avoids_change _

/-- A message is logged without a failure. -/
private theorem avoids_log (level : Level) (message : String) :
    Avoids Failure.IsRefusal (Action.log level message) := avoids_change _

/-- A message is noted without a failure, also where it cannot be written. -/
private theorem avoids_note (level : Level) (message : Except Number.TooLong String) :
    Avoids Failure.IsRefusal (Action.note level message) := by
  cases message with
  | ok message => exact avoids_log level message
  | error e => exact avoids_change id

/-- A draw that is not refused is not refused in a session. -/
theorem avoids_draw {d : Settings → Draw α} (h : ∀ s, Avoids Failure.IsRefusal (d s)) :
    Avoids Failure.IsRefusal (Action.draw d) := fun w => h w.settings w.source

/-- What fails before it has drawn anything leaves the workbench as it was. -/
theorem failsFirst_draw {d : Settings → Draw α}
    (h : ∀ s, FailsFirst Failure.IsRefusal (d s)) :
    FailsFirst Failure.IsRefusal (Action.draw d) := by
  intro w f hf href
  have hsource : ((d w.settings).run.run w.source).2 = w.source := h w.settings w.source f hf href
  show { w with source := ((d w.settings).run.run w.source).2 } = w
  rw [hsource]

/-! ## Naming -/

/-- A class name is allocated without a failure. -/
theorem avoids_nextClassName : Avoids Failure.IsRefusal nextClassName := fun _ => .ok _

/-- Numbers that cannot be compared are no refusal. -/
private theorem avoids_takeOver (id other : RecordId) (a : Attribute) :
    Avoids Failure.IsRefusal (takeOver id other a) := by
  refine (avoids_valueOf id a).bind fun own => ?_
  refine (avoids_valueOf other a).bind fun known => ?_
  refine (avoids_orMisuse (spares_larger own known)).bind fun number => ?_
  exact avoids_amend _

/-- The part of a registration that comes after the name of the class was found to be a key. -/
def register (c : RecordId) (name : Value) (key : Key) : Action Unit := do
  let known? ← Action.look fun w => .ok (w.session.registry.find? key)
  match known? with
  | some known =>
    if known ≠ c then
      takeOver c known .methodCount
      takeOver c known .fieldCount
  | none => pure ()
  Action.change fun w => { w with
    session := { w.session with registry := w.session.registry.enter name key c } }

/-- From then on a registration is not refused. -/
private theorem avoids_register (c : RecordId) (name : Value) (key : Key) :
    Avoids Failure.IsRefusal (register c name key) := by
  refine (avoids_look fun _ => .ok _).bind fun known? => ?_
  cases known? with
  | none => exact avoids_change _
  | some known =>
    simp only
    split
    · -- another class is known by the name, of which both numbers are taken over
      refine (avoids_takeOver c known .methodCount).bind fun _ => ?_
      refine (avoids_takeOver c known .fieldCount).bind fun _ => ?_
      exact avoids_change _
    · exact avoids_change _

/-- A registration looks for the name and its key before anything else. -/
private theorem registerClass_eq (c : RecordId) :
    registerClass c = (do
      let name ← Action.look fun w => .ok (w.records.nameOf c)
      let key ← Action.look fun _ => keyOf name
      register c name key) := rfl

/-- A class is refused before it takes over any number. -/
theorem failsFirst_registerClass (c : RecordId) :
    FailsFirst Failure.IsRefusal (registerClass c) := by
  rw [registerClass_eq]
  refine (keeps_look _).bind_failsFirst fun name => ?_
  refine (keeps_look _).bind_failsFirst fun key => ?_
  exact (avoids_register c name key).leaves

/-- A class whose name is a text is not refused. -/
private theorem spares_registerClass {c : RecordId} {w : Workbench} {name : String}
    (h : w.records.nameOf c = .str name) :
    Spares Failure.IsRefusal ((registerClass c).result w).1 := by
  have hregister : (registerClass c).result w = (register c (.str name) (.str name)).result w := by
    rw [registerClass_eq, Action.result_bind, Action.result_look, h]
    rfl
  rw [hregister]
  exact avoids_register c _ _ w

/-- A new class that is refused was not built, as one that was built is registered. -/
private theorem buildClass_of_refused {parent? : Option RecordId} {w : Workbench} {f : Failure}
    (h : ((newClass parent?).result w).1 = .error f) (hf : f.IsRefusal) :
    buildClass w.allocated.records (.str (classNameOf w.session.classCount)) parent?
      (.int 0) (.int 0) = .error f := by
  rw [result_newClass] at h
  cases hbuild : buildClass w.allocated.records (.str (classNameOf w.session.classCount)) parent?
      (.int 0) (.int 0) with
  | error f' =>
    simp only [hbuild] at h
    exact congrArg _ (Except.error.inj h)
  | ok built =>
    obtain ⟨c, records⟩ := built
    simp only [hbuild] at h
    -- the class that was built has the name that was allocated for it, which is a text
    have hname : records.nameOf c = .str (classNameOf w.session.classCount) := by
      have hadd := eq_add_of_buildClass hbuild
      rw [Records.nameOf, show records = _ from congrArg Prod.snd hadd,
        show c = _ from congrArg Prod.fst hadd, Records.get_add_self]
      rfl
    have hspares : Spares Failure.IsRefusal
        ((do registerClass c; return c : Action RecordId).result
          { w.allocated with records := records }).1 := by
      apply run_bind_cases (motive := fun p => Spares Failure.IsRefusal p.1)
      · intro e t hrun
        have hregister := spares_registerClass (w := { w.allocated with records := records }) hname
        exact .error (hregister e (congrArg Prod.fst hrun))
      · exact fun _ _ _ => .ok c
    exact absurd hf (hspares f h)

/-- A new class is refused after its name was allocated, and before anything else is done. -/
theorem leaves_newClass (parent? : Option RecordId) :
    Leaves Failure.IsRefusal (fun w => (nextClassName.result w).2) (newClass parent?) := by
  intro w f h hf
  show ((newClass parent?).result w).2 = (nextClassName.result w).2
  rw [result_newClass, buildClass_of_refused h hf, result_nextClassName]

/-- A new class is refused only as a class above itself. -/
theorem exists_ownAncestor_of_newClass {parent? : Option RecordId} {w : Workbench} {f : Failure}
    (h : ((newClass parent?).result w).1 = .error f) (hf : f.IsRefusal) :
    ∃ below above, f = .ownAncestor below above :=
  exists_ownAncestor_of_buildClass (buildClass_of_refused h hf) hf

/-- The name of a member is refused before it is allocated. -/
theorem failsFirst_nextMemberName (ref : ClassRef) (sort : String) (a : Attribute) :
    FailsFirst Failure.IsRefusal (nextMemberName ref sort a) := by
  -- the class, its name, its number and the next one are all found before one of them is assigned
  refine (keeps_look _).bind_failsFirst fun c => ?_
  refine (keeps_look _).bind_failsFirst fun className => ?_
  refine (keeps_valueOf c a).bind_failsFirst fun number => ?_
  refine (keeps_look _).bind_failsFirst fun name => ?_
  refine (keeps_orMisuse _).bind_failsFirst fun next => ?_
  exact (Avoids.bind_pure (avoids_amend _)).leaves

/-! ## Start and reset -/

/-- A source is started again without a refusal. -/
private theorem avoids_reseed : Avoids Failure.IsRefusal reseed := by
  refine (avoids_look fun w => spares_orMisuse (spares_started _ _)).bind fun source => ?_
  exact avoids_change _

/-- A reset is not refused. -/
theorem avoids_reset : Avoids Failure.IsRefusal reset := by
  refine (avoids_change _).bind fun _ => ?_
  refine avoids_reseed.bind fun _ => ?_
  refine (avoids_look fun _ => .ok _).bind fun seed => ?_
  exact avoids_note _ _

/-! ## Call sites -/

/-- A variable is marked without a refusal. -/
private theorem avoids_markUnavailable (target : RecordId) :
    Avoids Failure.IsRefusal (markUnavailable target) := by
  refine (avoids_valueOf target _).bind fun declared => ?_
  split
  · exact avoids_amend _
  · exact .pure ()

/-- A call is refused before a number is drawn for it, as it is written first. -/
theorem failsFirst_methodCall (m target : RecordId) (args : List RecordId) :
    FailsFirst Failure.IsRefusal (methodCall m target args) := by
  refine (keeps_look _).bind_failsFirst fun method => ?_
  refine (keeps_look _).bind_failsFirst fun statement => ?_
  refine (keeps_valueOf m .throws).bind_failsFirst fun throws => ?_
  -- the statement is written, and nothing that comes now is a refusal
  apply Avoids.leaves
  split
  · exact .pure _
  have hcallee : Avoids Failure.IsRefusal
      (Action.look fun w => calleeText (w.records.get m)) := avoids_look fun _ => spares_calleeText _
  refine (avoids_draw fun _ => avoids_ask _).bind fun u => ?_
  refine (avoids_look fun _ => .ok _).bind fun weight => ?_
  refine (avoids_orMisuse (spares_holds _ _ _)).bind fun wrapped => ?_
  split
  · refine (avoids_markUnavailable target).bind fun _ => ?_
    refine hcallee.bind fun callee => ?_
    exact (avoids_log _ _).bind_pure
  · refine hcallee.bind fun callee => ?_
    refine (avoids_look fun _ => spares_written _).bind fun into => ?_
    exact (avoids_log _ _).bind_pure

end Session

end JavaFragments
