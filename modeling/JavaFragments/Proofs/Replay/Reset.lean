import JavaFragments.Proofs.Replay.Operations
import JavaFragments.Script.World

/-! # Replay after a reset

A session with a seed that is reset works from then on like a new session with the same
settings, the same seed and a source of the same kind, whatever was done before.  Both are in
the state of a session that nothing was done with, behind what others have left:

* `result_inaugurate`, `result_reset`   what the start and the reset of a session leave
* `exists_behind`                       a session with nothing allocated is behind others
* `exists_opening_of_launch`            what every session of a world is started with
* `replay`                              the same answers after a reset as after a start -/

namespace JavaFragments

open Session Script JavaFragments.Random

namespace Session

/-! ## Start and reset -/

/-- A message changes nothing but the log. -/
private theorem result_note (level : Level) (message : Except Number.TooLong String)
    (w : Workbench) :
    ∃ entries, (Action.note level message).result w =
      (.ok (), { w with log := w.log ++ entries }) := by
  cases message with
  | ok message => exact ⟨_, rfl⟩
  | error e =>
    refine ⟨[], ?_⟩
    rw [List.append_nil]
    rfl

/-- The announcement of a session changes nothing but the log. -/
private theorem result_announce (w : Workbench) :
    ∃ entries, announce.result w = (.ok (), { w with log := w.log ++ entries }) := by
  obtain ⟨started, hstarted⟩ := result_note .info
    (do .ok s!"New generation session (seed={← w.session.seed.text})") w
  -- the warning comes in two forms or not at all
  have hwarn : ∀ v : Workbench, ∃ entries, (do
      let weight ← Action.look fun w => .ok (w.settings.get .tryCatchWeight)
      let warn (calls : String) : Action Unit := Action.note .warning do
        .ok s!"try_catch_weight={← weight.text}: calls to throwing methods are never {calls}"
      if weight.same (.float .zero) then warn "wrapped"
      else if weight.same (.float .one) then warn "left bare" : Action Unit).result v =
        (.ok (), { v with log := v.log ++ entries }) := by
    intro v
    rw [Action.result_bind, Action.result_look]
    simp only
    split
    · exact result_note _ _ v
    · split
      · exact result_note _ _ v
      · exact ⟨[], by rw [List.append_nil]; rfl⟩
  -- the warning comes behind the message of the start
  obtain ⟨warned, hwarned⟩ := hwarn { w with log := w.log ++ started }
  refine ⟨started ++ warned, ?_⟩
  rw [announce, Action.result_bind, Action.result_look]
  simp only
  rw [Action.result_bind, hstarted]
  simp only
  rw [hwarned, List.append_assoc]

/-- What the start of a session leaves, if the source can be started with the seed. -/
theorem result_inaugurate {w : Workbench} {s : Source}
    (h : w.source.started w.session.seed = .ok s) :
    ∃ entries, World.inaugurate.result w =
      (.ok (), { w with source := s, log := w.log ++ entries }) := by
  obtain ⟨entries, hentries⟩ := result_announce { w with source := s }
  refine ⟨entries, ?_⟩
  have hreseed : reseed.result w = (.ok (), { w with source := s }) := by
    show reseed.run.run w = _
    rw [result_reseed, h]
  rw [World.inaugurate, Action.result_bind, hreseed]
  exact hentries

/-- A session starts only if its source can be started with the seed. -/
private theorem started_of_inaugurate {w w' : Workbench}
    (h : World.inaugurate.result w = (.ok (), w')) :
    ∃ s, w.source.started w.session.seed = .ok s := by
  cases hstarted : w.source.started w.session.seed with
  | ok s => exact ⟨s, rfl⟩
  | error m =>
    have hreseed : reseed.result w = (.error (.misuse m), w) := by
      show reseed.run.run w = _
      rw [result_reseed, hstarted]
    rw [World.inaugurate, Action.result_bind, hreseed] at h
    exact nomatch congrArg Prod.fst h

/-- What the reset of a session leaves, if the source can be started with the seed. -/
theorem result_reset {w : Workbench} {s : Source} (h : w.source.started w.session.seed = .ok s) :
    ∃ entries, reset.result w =
      (.ok (), { w with
        session := { w.session with classCount := 0, registry := .empty }
        source := s
        log := w.log ++ entries }) := by
  -- the classes are forgotten before the source is started, which does not look at them
  let forgotten : Workbench := { w with
    session := { w.session with classCount := 0, registry := .empty } }
  have hreseed : reseed.result forgotten = (.ok (), { forgotten with source := s }) := by
    have hstarted : forgotten.source.started forgotten.session.seed = .ok s := h
    show reseed.run.run forgotten = _
    rw [result_reseed, hstarted]
  obtain ⟨entries, hentries⟩ := result_note .info
    (do .ok s!"Generation session reset (seed={← w.session.seed.text})")
    { forgotten with source := s }
  refine ⟨entries, ?_⟩
  rw [reset, Action.result_bind, Action.result_change]
  show (reseed >>= _).result forgotten = _
  rw [Action.result_bind, hreseed]
  exact hentries

/-! ## A session that nothing was done with -/

/-- A session that nothing was done with, and without others. -/
def Workbench.blank (seed : Value) (settings : Settings) (source : Source) : Workbench where
  session := { seed }
  settings
  source := { source with draws := 0 }
  records := .empty

/-- A session with nothing allocated is one that nothing was done with, behind others. -/
theorem exists_behind {w : Workbench} (hcount : w.session.classCount = 0)
    (hregistry : w.session.registry = .empty) :
    ∃ l, w = (Workbench.blank w.session.seed w.settings w.source).behind l := by
  refine ⟨⟨w.records, w.source.draws, w.session.logger, w.log⟩, ?_⟩
  obtain ⟨⟨seed, logger, classCount, registry⟩, settings, source, records, log⟩ := w
  obtain rfl : classCount = 0 := hcount
  obtain rfl : registry = .empty := hregistry
  simp [Workbench.blank, Workbench.behind, Source.later, Records.behind, Records.empty]
  rfl

end Session

namespace Script

/-- What a session is started with and where: its own seed, its settings and its source, and the
    records and messages that are there already. -/
structure Opening where
  own : Value
  settings : Settings
  source : Source
  logger : String
  records : Records
  log : List LogEntry

namespace Opening

/-- The seed of the session, which is its own or else that of its settings. -/
def seed (o : Opening) : Value := World.chooseSeed o.own o.settings

/-- The workbench that the session is started on. -/
def bench (o : Opening) : Workbench where
  session := { seed := o.seed, logger := o.logger }
  settings := o.settings
  source := o.source
  records := o.records
  log := o.log

/-- Both sessions have the same settings, the same seed and sources of one kind. -/
structure Alike (o o' : Opening) : Prop where
  settings : o.settings = o'.settings
  seed : o.seed = o'.seed
  source : o.source.generator.SameKind o'.source.generator

end Opening

/-- Adding a source leaves the settings and the shelf as they are. -/
private theorem provideSource_eq {w w' : World} {spec : SourceSpec} {i : Nat}
    (h : w.provideSource spec = .ok (i, w')) : w'.settings = w.settings ∧ w'.shelf = w.shelf := by
  -- a source is one that there is already, or a new one
  cases spec with
  | shared name =>
    cases hp : w.placeOf name with
    | error f => simp [World.provideSource, hp, bind, Except.bind] at h
    | ok p =>
      simp only [World.provideSource, hp, bind, Except.bind, Except.ok.injEq, Prod.mk.injEq] at h
      obtain ⟨-, rfl⟩ := h
      exact ⟨rfl, rfl⟩
  | fresh =>
    obtain ⟨-, rfl⟩ := Prod.mk.inj (Except.ok.inj h)
    exact ⟨rfl, rfl⟩
  | script numbers =>
    obtain ⟨-, rfl⟩ := Prod.mk.inj (Except.ok.inj h)
    exact ⟨rfl, rfl⟩
  | seeded own =>
    obtain ⟨-, rfl⟩ := Prod.mk.inj (Except.ok.inj h)
    exact ⟨rfl, rfl⟩

/-- Adding settings leaves the shelf as it is. -/
private theorem shelf_provideSettings {w w' : World} {spec : OptionsSpec} {i : Nat}
    (h : w.provideSettings spec = .ok (i, w')) : w'.shelf = w.shelf := by
  -- settings are those that there are already, the defaults, or made from a request
  cases spec with
  | shared name =>
    cases hp : w.placeOf name with
    | error f => simp [World.provideSettings, hp, bind, Except.bind] at h
    | ok p =>
      simp only [World.provideSettings, hp, bind, Except.bind, Except.ok.injEq, Prod.mk.injEq] at h
      rw [← h.2]
  | defaults =>
    obtain ⟨-, rfl⟩ := Prod.mk.inj (Except.ok.inj h)
    rfl
  | configured request =>
    simp only [World.provideSettings] at h
    split at h
    · obtain ⟨-, rfl⟩ := Prod.mk.inj (Except.ok.inj h)
      rfl
    · exact nomatch h

/-- Every session of a world is started with an opening. -/
theorem exists_opening_of_launch {w w' : World} {spec : Spec} {i : Nat} {log : List LogEntry}
    (h : w.launch spec = .ok (i, log, w')) :
    ∃ o : Opening, ∃ v, o.own = spec.seed ∧ o.logger = spec.logger ∧
      o.records = w.shelf.records ∧ World.inaugurate.result o.bench = (.ok (), v) ∧
      v.log = log ∧ w'.shelf.records = v.records := by
  unfold World.launch at h
  -- a launch provides settings, then a source, then starts the session
  cases hsettings : w.provideSettings spec.options with
  | error f => simp [hsettings, bind, Except.bind] at h
  | ok provided =>
    obtain ⟨settings, w₁⟩ := provided
    simp only [hsettings, bind, Except.bind] at h
    cases hsource : w₁.provideSource spec.source with
    | error f => simp [hsource] at h
    | ok provided =>
      obtain ⟨source, w₂⟩ := provided
      obtain ⟨hkept, hshelf⟩ := provideSource_eq hsource
      simp only [hsource] at h
      -- the opening is read off the world when settings and source are there
      let o : Opening := ⟨spec.seed, w₂.settings.getD settings default,
        w₂.sources.getD source (.ofSeed (.int w₂.entropy)), spec.logger, w₂.shelf.records, []⟩
      have hseed : World.chooseSeed spec.seed (w₁.settings.getD settings default) = o.seed := by
        rw [← hkept]
        rfl
      rw [hseed] at h
      have hrecords : o.records = w.shelf.records := by
        show w₂.shelf.records = _
        rw [hshelf, shelf_provideSettings hsettings]
      split at h
      · rename_i v hresult
        obtain ⟨-, hrest⟩ := Prod.mk.inj (Except.ok.inj h)
        obtain ⟨hlog, hworld⟩ := Prod.mk.inj hrest
        have hkeptRecords : w'.shelf.records = v.records := by
          rw [← hworld]
          rfl
        exact ⟨o, v, rfl, rfl, hrecords, hresult, hlog, hkeptRecords⟩
      · exact nomatch h

/-- A source that is started with a seed again, or another of its kind, is in the same state
    apart from the number of its draws. -/
private theorem blank_of_started {s t s' : Source} (h : s.generator.SameKind t.generator)
    {seed : Value} (hseed : seed ≠ .null) (hs : s.started seed = .ok s') (settings : Settings) :
    ∃ t', t.started seed = .ok t' ∧
      Workbench.blank seed settings t' = Workbench.blank seed settings s' := by
  have ht := started_of_sameKind h hseed
  rw [hs] at ht
  exact ⟨_, ht, rfl⟩

/-- Operations answer the same on sessions that are alike but for what others have left. -/
private theorem performAll_eq_of_blank {w w' : Workbench} (hcount : w.session.classCount = 0)
    (hcount' : w'.session.classCount = 0) (hregistry : w.session.registry = .empty)
    (hregistry' : w'.session.registry = .empty)
    (hblank : Workbench.blank w.session.seed w.settings w.source =
      Workbench.blank w'.session.seed w'.settings w'.source)
    {ops : List Op} (hdraws : .session .draws ∉ ops) :
    (performAll ops ⟨w, .empty⟩).1 = (performAll ops ⟨w', .empty⟩).1 := by
  obtain ⟨l, hl⟩ := exists_behind hcount hregistry
  obtain ⟨l', hl'⟩ := exists_behind hcount' hregistry'
  have hscene : ∀ (l : Leftover) (v : Workbench),
      (⟨v.behind l, .empty⟩ : Scene) = (⟨v, .empty⟩ : Scene).behind l := fun _ _ => rfl
  rw [hl, hl', hblank, hscene, hscene, performAll_behind hdraws, performAll_behind hdraws]

/-- Replay after a reset.  A session with a seed is started, does whatever operations but the
    setting of options, and is reset.  From then on operations that refer only to class names and
    to records of their own, so that there are no labels when they begin, answer what they answer
    on a new session with the same settings, the same seed and a source of the same kind.  Both
    the reset and the start of the new session succeed, and it makes no difference which records,
    draws and messages there are already where the new session is started.  Only the number of
    draws is not asked for, as a source counts them for as long as it exists. -/
theorem replay {o o' : Opening} (halike : o.Alike o') (hseed : o.seed ≠ .null) {w : Workbench}
    (hstart : World.inaugurate.result o.bench = (.ok (), w)) (labels : OrderedMap Label RecordId)
    {before ops : List Op} (hbefore : ∀ target v, .session (.setOption target v) ∉ before)
    (hops : .session .draws ∉ ops) :
    ∃ v w', Session.reset.result (performAll before ⟨w, labels⟩).2.bench = (.ok (), v) ∧
      World.inaugurate.result o'.bench = (.ok (), w') ∧
      (performAll ops ⟨v, .empty⟩).1 = (performAll ops ⟨w', .empty⟩).1 := by
  obtain ⟨s, hs⟩ := started_of_inaugurate hstart
  obtain ⟨entries, hinaugurate⟩ := result_inaugurate hs
  have hw : w = { o.bench with source := s, log := o.bench.log ++ entries } :=
    (Prod.mk.inj (hstart.symm.trans hinaugurate)).2
  let left : Workbench := (performAll before ⟨w, labels⟩).2.bench
  -- what was done before keeps whatever the reset depends on
  obtain ⟨hleftSeed, hleftSettings, hleftKind⟩ :
      left.session.seed = w.session.seed ∧ left.settings = w.settings ∧
        w.source.generator.SameKind left.source.generator :=
    keeps_performAll (l := ⟨.empty, 0, "", []⟩) hbefore ⟨w, labels⟩
  have hkind : o.source.generator.SameKind left.source.generator := by
    rw [hw] at hleftKind
    exact (sameKind_of_started hs).trans hleftKind
  -- the seed and the settings at the reset are those of the start
  have hseedLeft : left.session.seed = o.seed := by
    rw [hleftSeed, hw]
    rfl
  have hsettingsLeft : left.settings = o.settings := by
    rw [hleftSettings, hw]
    rfl
  -- both sources are started with that seed, which leaves nothing of what they were
  obtain ⟨t, ht, hblank⟩ := blank_of_started hkind hseed hs o.settings
  obtain ⟨t', ht', hblank'⟩ := blank_of_started halike.source hseed hs o.settings
  have hreset : left.source.started left.session.seed = .ok t := by
    rw [hseedLeft]
    exact ht
  have hnew : o'.bench.source.started o'.bench.session.seed = .ok t' := by
    show o'.source.started o'.seed = .ok t'
    rw [← halike.seed]
    exact ht'
  obtain ⟨_, hv⟩ := result_reset hreset
  obtain ⟨_, hw'⟩ := result_inaugurate hnew
  refine ⟨_, _, hv, hw', performAll_eq_of_blank rfl rfl rfl rfl ?_ hops⟩
  show Workbench.blank left.session.seed left.settings t = Workbench.blank o'.seed o'.settings t'
  rw [hseedLeft, hsettingsLeft, ← halike.seed, ← halike.settings, hblank, hblank']

/-- A class with its names, a literal and the registry after a reset, and on a new session that
    finds a record and a script in use already. -/
theorem replay_scripted :
    let o : Opening := ⟨.int 7, default, .ofScript [3, 14, 15], "javagen", .empty, []⟩
    let taken : Record := .ofClass (.str "Taken") (.value .null) (.int 0) (.int 0)
    let o' : Opening := ⟨.int 7, default, { generator := .script [3, 14, 15] 2, draws := 5 },
      "other", (Records.empty.add taken).2, []⟩
    let before : List Op := [.session .nextClassName, .session (.literal (.kind .int))]
    let ops : List Op := [.session (.newClass none (some "c")),
      .session (.nextMethodName (.labelled "c")), .session (.literal (.kind .int)), .session .dump]
    ∃ v w', Session.reset.result
          (performAll before ⟨(World.inaugurate.result o.bench).2, .empty⟩).2.bench = (.ok (), v) ∧
      World.inaugurate.result o'.bench = (.ok (), w') ∧
      (performAll ops ⟨v, .empty⟩).1 = (performAll ops ⟨w', .empty⟩).1 := by
  intro o taken o' before ops
  have halike : o.Alike o' := ⟨rfl, rfl, rfl⟩
  have hseed : o.seed ≠ .null := nofun
  have hstarted : o.bench.source.started o.bench.session.seed =
      .ok { generator := .script [3, 14, 15] 1 } := rfl
  obtain ⟨entries, hinaugurate⟩ := result_inaugurate hstarted
  have hstart : World.inaugurate.result o.bench =
      (.ok (), (World.inaugurate.result o.bench).2) := by rw [hinaugurate]
  have hbefore : ∀ target v, .session (.setOption target v) ∉ before := by
    intro target v
    simp [before]
  have hops : .session .draws ∉ ops := by simp [ops]
  exact replay halike hseed hstart .empty hbefore hops

end Script

end JavaFragments
