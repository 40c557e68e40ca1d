import JavaFragments.Proofs.Replay.Draws
import JavaFragments.Proofs.Replay.Records
import JavaFragments.Session.Calls
import JavaFragments.Session.Lifecycle

/-! # A session behind what others have left

A session works in the same way whatever records, draws and messages there are already, as
long as it is not told of them.  It never gives up its seed or its settings, and its source
stays of the kind that it is:

* `follows_registerClass`, `follows_newClass`, `follows_nextMemberName`   naming
* `follows_methodCall`   call sites
* `follows_reset`        the reset of the session -/

namespace JavaFragments

/-- A registered class behind `n` other records. -/
def Registration.behind (n : Nat) (e : Registration) : Registration :=
  { e with record := e.record.behind n }

namespace Session

open Fragment JavaFragments.Random

/-- What others have left, and the logger of the session behind it. -/
structure Leftover where
  records : Records
  draws : Nat
  logger : String
  log : List LogEntry

/-- How many records there are before those of the session. -/
abbrev Leftover.size (l : Leftover) : Nat := l.records.all.size

/-- The workbench of a session behind what others have left. -/
def Workbench.behind (l : Leftover) (w : Workbench) : Workbench where
  session := { w.session with
    logger := l.logger
    registry := w.session.registry.map (Registration.behind l.size) }
  settings := w.settings
  source := w.source.later l.draws
  records := l.records.behind w.records
  log := l.log ++ w.log.map fun e => { e with logger := l.logger }

/-- A session behind what others have left. -/
def benchOverlay (l : Leftover) : Overlay Workbench where
  place := Workbench.behind l
  keeps w w' := w'.session.seed = w.session.seed ∧ w'.settings = w.settings ∧
    w.source.generator.SameKind w'.source.generator
  refl _ := ⟨rfl, rfl, .refl _⟩
  trans h h' := ⟨h'.1.trans h.1, h'.2.1.trans h.2.1, h.2.2.trans h'.2.2⟩

variable {l : Leftover}

/-! ## The parts of actions -/

/-- What is told of the workbench, up to the records that it is told of. -/
theorem follows_look {α β : Type} {f : α → β} {g : Workbench → Except Failure α}
    {h : Workbench → Except Failure β} (hgh : ∀ w, h (w.behind l) = (g w).map f) :
    Follows (benchOverlay l) f (Action.look g) (Action.look h) where
  result w := by
    show (h (w.behind l), w.behind l) = ((g w).map f, w.behind l)
    rw [hgh]
  keeps w := (benchOverlay l).refl w

/-- What is told of the workbench is often the same behind others. -/
theorem follows_look_same {α : Type} {g h : Workbench → Except Failure α}
    (hgh : ∀ w, h (w.behind l) = g w) :
    Follows (benchOverlay l) id (Action.look g) (Action.look h) :=
  follows_look fun w => by
    rw [hgh]
    cases g w <;> rfl

/-- A change that is the same change behind others. -/
private theorem follows_change {g h : Workbench → Workbench}
    (hgh : ∀ w, h (w.behind l) = (g w).behind l) (hkeeps : ∀ w, (benchOverlay l).keeps w (g w)) :
    Follows (benchOverlay l) id (Action.change g) (Action.change h) where
  result w := by
    show (Except.ok (), h (w.behind l)) = (Except.ok (), (g w).behind l)
    rw [hgh]
  keeps := hkeeps

/-- A draw from the source, which has given other answers before. -/
theorem follows_draw {α : Type} {d : Settings → Draw α} (hd : ∀ s, DrawFollows l.draws (d s)) :
    Follows (benchOverlay l) id (Action.draw d) (Action.draw d) where
  result w := by
    -- the source is one that has given answers before
    have hresult := (hd w.settings).result w.source
    show (((d w.settings).run.run (w.source.later l.draws)).1,
      { w.behind l with source := ((d w.settings).run.run (w.source.later l.draws)).2 }) = _
    rw [show w.source.later l.draws = (drawsOverlay l.draws).place w.source from rfl, hresult]
    rfl
  keeps w := ⟨rfl, rfl, (hd w.settings).keeps w.source⟩

/-- Something that is done with the records and told of. -/
private theorem follows_record {α β : Type} {f : α → β} {g : Records → α × Records}
    {h : Records → β × Records}
    (hgh : ∀ r, h (l.records.behind r) = (f (g r).1, l.records.behind (g r).2)) :
    Follows (benchOverlay l) f (Action.record g) (Action.record h) where
  result w := by
    show (Except.ok (h (l.records.behind w.records)).1,
      { w.behind l with records := (h (l.records.behind w.records)).2 }) = _
    rw [hgh]
    rfl
  keeps _ := ⟨rfl, rfl, .refl _⟩

/-- Something that is done with the records. -/
theorem follows_amend {g h : Records → Records}
    (hgh : ∀ r, h (l.records.behind r) = l.records.behind (g r)) :
    Follows (benchOverlay l) id (Action.amend g) (Action.amend h) := by
  apply follows_change
  · intro w
    show { w.behind l with records := h (l.records.behind w.records) } = _
    rw [hgh]
    rfl
  · exact fun w => ⟨rfl, rfl, .refl _⟩

/-- A message is added to those that are there, under the logger's other name. -/
private theorem follows_log (level : Level) (message : String) :
    Follows (benchOverlay l) id (Action.log level message) (Action.log level message) := by
  apply follows_change
  · intro w
    simp [Workbench.behind]
  · exact fun w => ⟨rfl, rfl, .refl _⟩

/-- A message that cannot be written is left out behind others as well. -/
private theorem follows_note (level : Level) (message : Except Number.TooLong String) :
    Follows (benchOverlay l) id (Action.note level message) (Action.note level message) := by
  cases message with
  | ok message => exact follows_log level message
  | error e => exact follows_change (fun _ => rfl) fun _ => ⟨rfl, rfl, .refl _⟩

/-- What is told without a look at the workbench. -/
theorem follows_told {α : Type} (x : Except Failure α) :
    Follows (benchOverlay l) id (Action.look fun _ => x) (Action.look fun _ => x) :=
  follows_look_same fun _ => rfl

/-- A misuse is the same misuse behind others. -/
private theorem follows_orMisuse {α : Type} (r : Except Misuse α) :
    Follows (benchOverlay l) id (Action.orMisuse r) (Action.orMisuse r) :=
  follows_told (Fragment.orMisuse r)

/-- A record of the session has moved behind the others. -/
theorem get_records_behind (w : Workbench) (c : RecordId) :
    (w.behind l).records.get (c.behind l.size) = (w.records.get c).behind l.size :=
  Records.get_behind ..

/-- A record of the session has kept its name. -/
theorem nameOf_records_behind (w : Workbench) (c : RecordId) :
    (w.behind l).records.nameOf (c.behind l.size) = w.records.nameOf c :=
  Records.nameOf_behind ..

/-- The attributes of a record are no references. -/
theorem follows_valueOf (c : RecordId) (a : Attribute) :
    Follows (benchOverlay l) id (valueOf c a) (valueOf (c.behind l.size) a) := by
  apply follows_look_same
  intro w
  rw [get_records_behind, get_behind_attribute]

/-- An attribute is changed in the record that has moved. -/
theorem follows_assign (c : RecordId) (a : Attribute) (v : Value) :
    Follows (benchOverlay l) id (Action.amend (·.assign c a v))
      (Action.amend (·.assign (c.behind l.size) a v)) :=
  follows_amend fun r => Records.assign_behind l.records r c a v

/-! ## Naming -/

/-- A key refers to the record that has moved. -/
private theorem find?_registry_behind (w : Workbench) (key : Key) :
    (w.behind l).session.registry.find? key =
      (w.session.registry.find? key).map (RecordId.behind l.size) := by
  show ((w.session.registry.map (Registration.behind l.size)).get? key).map (·.record) = _
  rw [OrderedMap.get?_map, Registry.find?]
  cases w.session.registry.get? key <;> rfl

/-- A record is registered behind the others. -/
private theorem enter_registry_behind (w : Workbench) (name : Value) (key : Key) (c : RecordId) :
    (w.behind l).session.registry.enter name key (c.behind l.size) =
      (w.session.registry.enter name key c).map (Registration.behind l.size) := by
  have hname : ((w.behind l).session.registry.get? key).map (·.name) =
      (w.session.registry.get? key).map (·.name) := by
    show ((w.session.registry.map (Registration.behind l.size)).get? key).map (·.name) = _
    rw [OrderedMap.get?_map]
    cases w.session.registry.get? key <;> rfl
  rw [Registry.enter, Registry.enter, OrderedMap.map_put, hname]
  rfl

/-- A registration refers to the record that has moved. -/
private theorem follows_enter (name : Value) (key : Key) (c : RecordId) :
    Follows (benchOverlay l) id
      (Action.change fun w => { w with
        session := { w.session with registry := w.session.registry.enter name key c } })
      (Action.change fun w => { w with
        session := { w.session with
          registry := w.session.registry.enter name key (c.behind l.size) } }) := by
  apply follows_change
  · intro w
    rw [enter_registry_behind]
    rfl
  · exact fun w => ⟨rfl, rfl, .refl _⟩

/-- The numbers that are taken over do not depend on the others. -/
private theorem follows_takeOver (c other : RecordId) (a : Attribute) :
    Follows (benchOverlay l) id (takeOver c other a)
      (takeOver (c.behind l.size) (other.behind l.size) a) := by
  refine (follows_valueOf c a).bind fun own => ?_
  refine (follows_valueOf other a).bind fun known => ?_
  refine (follows_orMisuse (own.larger known)).bind fun number => ?_
  exact follows_assign c a number

/-- A class is registered in the same way behind others. -/
theorem follows_registerClass (c : RecordId) :
    Follows (benchOverlay l) id (registerClass c) (registerClass (c.behind l.size)) := by
  have hname : Follows (benchOverlay l) id (Action.look fun w => .ok (w.records.nameOf c))
      (Action.look fun w => .ok (w.records.nameOf (c.behind l.size))) :=
    follows_look_same fun w => by rw [nameOf_records_behind]
  have hknown : ∀ key, Follows (benchOverlay l) (Option.map (RecordId.behind l.size))
      (Action.look fun w => .ok (w.session.registry.find? key))
      (Action.look fun w => .ok (w.session.registry.find? key)) := fun key =>
    follows_look fun w => by
      rw [find?_registry_behind]
      rfl
  refine hname.bind fun name => ?_
  refine (follows_told (keyOf name)).bind fun key => ?_
  refine (hknown key).bind fun known? => ?_
  cases known? with
  | none => exact follows_enter name key c
  | some known =>
    -- the record that is registered already has no numbers to take over
    by_cases heq : known = c
    · simp only [Option.map_some, id_eq, heq, ne_eq, not_true_eq_false, if_false]
      exact follows_enter name key c
    · have hbehind : known.behind l.size ≠ c.behind l.size := fun h => heq (behind_inj.1 h)
      simp only [Option.map_some, id_eq, heq, hbehind, ne_eq, not_false_eq_true, if_true]
      refine (follows_takeOver c known .methodCount).bind fun _ => ?_
      refine (follows_takeOver c known .fieldCount).bind fun _ => ?_
      exact follows_enter name key c

/-- The name of the next class depends on the number of classes of the session alone. -/
theorem follows_nextClassName : Follows (benchOverlay l) id nextClassName nextClassName := by
  have hname : Follows (benchOverlay l) id
      (Action.look fun w => .ok (classNameOf w.session.classCount))
      (Action.look fun w => .ok (classNameOf w.session.classCount)) :=
    follows_look_same fun _ => rfl
  have hrecord : ∀ name : String, Follows (benchOverlay l) (RecordId.behind l.size)
      (Action.record (·.add (.ofClass (.str name) (.value .null) (.int 0) (.int 0))))
      (Action.record (·.add (.ofClass (.str name) (.value .null) (.int 0) (.int 0)))) := fun name =>
    follows_record fun r => Records.add_behind l.records r
      (.ofClass (.str name) (.value .null) (.int 0) (.int 0))
  have hregister : ∀ (name : String) (c : RecordId), Follows (benchOverlay l) id
      (Action.change fun w => { w with
        session := { w.session with
          classCount := w.session.classCount + 1
          registry := w.session.registry.enter (.str name) (.str name) c } })
      (Action.change fun w => { w with
        session := { w.session with
          classCount := w.session.classCount + 1
          registry := w.session.registry.enter (.str name) (.str name) (c.behind l.size) } }) := by
    intro name c
    apply follows_change
    · intro w
      rw [enter_registry_behind]
      rfl
    · exact fun w => ⟨rfl, rfl, .refl _⟩
  refine hname.bind fun name => ?_
  refine (hrecord name).bind fun c => ?_
  refine (hregister name c).bind fun _ => ?_
  exact (follows_log .debug _).bind fun _ => Follows.pure name

/-- A class that is built behind others. -/
private theorem follows_buildClass (name : Value) (parent? : Option RecordId) (m n : Value) :
    Follows (benchOverlay l) (fun built => (built.1.behind l.size, l.records.behind built.2))
      (Action.look fun w => buildClass w.records name parent? m n)
      (Action.look fun w => buildClass w.records name (parent?.map (RecordId.behind l.size)) m n) :=
  follows_look fun w => buildClass_behind l.records w.records name parent? m n

/-- A class that is made behind others is the next record there as well. -/
theorem follows_newClass (parent? : Option RecordId) :
    Follows (benchOverlay l) (RecordId.behind l.size) (newClass parent?)
      (newClass (parent?.map (RecordId.behind l.size))) := by
  refine follows_nextClassName.bind fun name => ?_
  refine (follows_buildClass (.str name) parent? (.int 0) (.int 0)).bind fun built => ?_
  have hrecords : Follows (benchOverlay l) id (Action.amend fun _ => built.2)
      (Action.amend fun _ => l.records.behind built.2) := follows_amend fun _ => rfl
  refine hrecords.bind fun _ => ?_
  exact (follows_registerClass built.1).bind fun _ => Follows.pure built.1

/-- A class as the caller refers to it, behind `n` other records. -/
def ClassRef.behind (n : Nat) : ClassRef → ClassRef
  | .record c => .record (c.behind n)
  | .named v => .named v

/-- What a caller refers to is found behind others, or refused in the same words. -/
private theorem resolve_behind (w : Workbench) (ref : ClassRef) :
    resolve (w.behind l) (ref.behind l.size) = (resolve w ref).map (RecordId.behind l.size) := by
  cases ref with
  | record c =>
    simp only [ClassRef.behind, resolve, get_records_behind, sort_behind]
    cases (w.records.get c).sort <;> rfl
  | named v =>
    simp only [ClassRef.behind, resolve, findClass, bind, Except.bind]
    cases keyOf v with
    | error f => rfl
    | ok key =>
      simp only [find?_registry_behind]
      cases w.session.registry.find? key with
      | some c => rfl
      | none =>
        -- the refusal describes the value and no record
        show refuse v .unknownClass = Except.map _ (refuse v .unknownClass)
        unfold refuse
        cases v.describe <;> rfl

/-- A class is found, or refused, behind others as without them. -/
theorem follows_getClass (ref : ClassRef) :
    Follows (benchOverlay l) (RecordId.behind l.size) (getClass ref)
      (getClass (ref.behind l.size)) :=
  follows_look fun w => resolve_behind w ref

/-- The name of the next member depends on the class alone. -/
theorem follows_nextMemberName (ref : ClassRef) (sort : String) (a : Attribute) :
    Follows (benchOverlay l) id (nextMemberName ref sort a)
      (nextMemberName (ref.behind l.size) sort a) := by
  refine (follows_getClass ref).bind fun c => ?_
  have hname : Follows (benchOverlay l) id
      (Action.look fun w => Fragment.orMisuse (lowered (w.records.nameOf c)))
      (Action.look fun w => Fragment.orMisuse (lowered (w.records.nameOf (c.behind l.size)))) :=
    follows_look_same fun w => by rw [nameOf_records_behind]
  refine hname.bind fun className => ?_
  refine (follows_valueOf c a).bind fun number => ?_
  refine (follows_told _).bind fun name => ?_
  refine (follows_orMisuse (number.next .inPlace)).bind fun next => ?_
  exact (follows_assign c a next).bind fun _ => Follows.pure name

/-! ## Call sites -/

/-- The target of a call becomes unavailable behind others as without them. -/
private theorem follows_markUnavailable (target : RecordId) :
    Follows (benchOverlay l) id (markUnavailable target)
      (markUnavailable (target.behind l.size)) := by
  refine (follows_valueOf target _).bind fun declared => ?_
  -- a variable that is declared elsewhere stays available
  simp only [id_eq]
  split
  · exact follows_assign target _ _
  · exact Follows.pure ()

/-- The names of records behind others. -/
theorem map_nameOf_behind (w : Workbench) (ids : List RecordId) :
    (ids.map (RecordId.behind l.size)).map (w.behind l).records.nameOf =
      ids.map w.records.nameOf := by
  rw [List.map_map]
  exact List.map_congr_left fun c _ => nameOf_records_behind w c

/-- A call is written, wrapped and noted behind others as without them. -/
theorem follows_methodCall (m target : RecordId) (args : List RecordId) :
    Follows (benchOverlay l) id (methodCall m target args)
      (methodCall (m.behind l.size) (target.behind l.size) (args.map (RecordId.behind l.size))) := by
  have hmethod : Follows (benchOverlay l) (Record.behind l.size)
      (Action.look fun w => .ok (w.records.get m))
      (Action.look fun w => .ok (w.records.get (m.behind l.size))) :=
    follows_look fun w => by
      rw [get_records_behind]
      rfl
  have hstatement : ∀ method : Record, Follows (benchOverlay l) id
      (Action.look fun w => assignment method (w.records.get target) (args.map w.records.nameOf))
      (Action.look fun w => assignment (method.behind l.size)
        (w.records.get (target.behind l.size))
        ((args.map (RecordId.behind l.size)).map w.records.nameOf)) := fun method =>
    follows_look_same fun w => by
      rw [get_records_behind, map_nameOf_behind]
      rfl
  have hcallee : Follows (benchOverlay l) id (Action.look fun w => calleeText (w.records.get m))
      (Action.look fun w => calleeText (w.records.get (m.behind l.size))) :=
    follows_look_same fun w => by
      rw [get_records_behind]
      rfl
  have hinto : Follows (benchOverlay l) id
      (Action.look fun w => written (w.records.nameOf target))
      (Action.look fun w => written (w.records.nameOf (target.behind l.size))) :=
    follows_look_same fun w => by rw [nameOf_records_behind]
  have hweight : Follows (benchOverlay l) id
      (Action.look fun w => .ok (w.settings.get .tryCatchWeight))
      (Action.look fun w => .ok (w.settings.get .tryCatchWeight)) :=
    follows_look_same fun _ => rfl
  refine hmethod.bind fun method => ?_
  refine (hstatement method).bind fun statement => ?_
  refine (follows_valueOf m .throws).bind fun throws => ?_
  simp only [id_eq]
  split
  · exact Follows.pure _
  · -- the call may throw, and a draw decides whether it is wrapped
    refine (follows_draw fun _ => follows_random).bind fun u => ?_
    refine hweight.bind fun weight => ?_
    refine (follows_orMisuse _).bind fun wrap => ?_
    cases wrap with
    | true =>
      refine (follows_markUnavailable target).bind fun _ => ?_
      refine hcallee.bind fun callee => ?_
      exact (follows_log .debug _).bind fun _ => Follows.pure _
    | false =>
      refine hcallee.bind fun callee => ?_
      refine hinto.bind fun into => ?_
      exact (follows_log .debug _).bind fun _ => Follows.pure _

/-! ## Reset -/

/-- What comes of starting the source of a session again. -/
theorem result_reseed (w : Workbench) :
    reseed.run.run w =
      match w.source.started w.session.seed with
      | .ok s => (.ok (), { w with source := s })
      | .error m => (.error (.misuse m), w) := by
  show Action.result reseed w = _
  rw [reseed, Action.result_bind, Action.result_look]
  cases w.source.started w.session.seed <;> rfl

/-- The source is started with the seed that the session has kept. -/
private theorem follows_reseed : Follows (benchOverlay l) id reseed reseed where
  result w := by
    have hstarted : (w.behind l).source.started (w.behind l).session.seed =
        (w.source.started w.session.seed).map (Source.later l.draws) := started_later ..
    show reseed.run.run (w.behind l) = _
    rw [result_reseed, result_reseed, hstarted]
    cases w.source.started w.session.seed <;> rfl
  keeps w := by
    rw [result_reseed]
    -- a source that cannot be started stays what it was
    cases hstarted : w.source.started w.session.seed with
    | error m => exact (benchOverlay l).refl w
    | ok s => exact ⟨rfl, rfl, sameKind_of_started hstarted⟩

/-- The seed is told as it is. -/
private theorem follows_seed : Follows (benchOverlay l) id (Action.look fun w => .ok w.session.seed)
    (Action.look fun w => .ok w.session.seed) :=
  follows_look_same fun _ => rfl

/-- A session forgets its own classes and starts its source, whatever others have left. -/
theorem follows_reset : Follows (benchOverlay l) id reset reset := by
  have hforget : Follows (benchOverlay l) id
      (Action.change fun w => { w with
        session := { w.session with classCount := 0, registry := .empty } })
      (Action.change fun w => { w with
        session := { w.session with classCount := 0, registry := .empty } }) :=
    follows_change (fun _ => rfl) fun _ => ⟨rfl, rfl, .refl _⟩
  refine hforget.bind fun _ => ?_
  refine follows_reseed.bind fun _ => ?_
  refine follows_seed.bind fun seed => ?_
  exact follows_note _ _

end Session

end JavaFragments
