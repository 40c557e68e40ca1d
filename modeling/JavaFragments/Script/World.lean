import JavaFragments.Options.Configuration
import JavaFragments.Script.Perform

/-! # Several sessions

Sessions may share their options and their random sources, and all share the records.  A
`World` holds the sessions under names, with one common session that is started when it is
first asked for.  The names that are offered to a script stand at the end. -/

namespace JavaFragments.Script

open JavaFragments.Random Session

/-- A session with the places of its options and its random source. -/
structure Place where
  session : Session
  settings : Nat
  source : Nat

/-- All sessions and what they share. -/
structure World where
  env : Environment := {}
  tree : FileTree := {}
  shelf : Shelf := {}
  settings : Array Settings := #[]
  sources : Array Source := #[]
  sessions : Array Place := #[]
  /-- Places of the sessions by name. -/
  names : OrderedMap String Nat := .empty
  /-- Place of the common session. -/
  common : Option Nat := none
  /-- The seed of a random source for which none is known. -/
  entropy : Int := 0

/-- What a session takes its options from. -/
inductive OptionsSpec
  /-- The defaults. -/
  | defaults
  /-- The options of another session, shared with it. -/
  | shared (session : String)
  /-- A configuration of its own. -/
  | configured (request : Options.Request)

/-- What a session takes its random source from. -/
inductive SourceSpec
  /-- A new twister, started with the seed of the session. -/
  | fresh
  /-- A new script. -/
  | script (numbers : List Nat)
  /-- A new twister, started with a seed of its own. -/
  | seeded (seed : Int)
  /-- The source of another session, shared with it. -/
  | shared (session : String)

/-- What a session is started with. -/
structure Spec where
  options : OptionsSpec := .configured {}
  seed : Value := .null
  source : SourceSpec := .fresh
  logger : String := "javagen"

/-- One step with records and several sessions. -/
inductive Step
  /-- Starts a session under a name. -/
  | start (spec : Spec) (name : String)
  /-- Gives a name to the common session. -/
  | common (name : String)
  /-- Gives up the common session. -/
  | dropCommon
  /-- Performs an operation on records, which needs no session. -/
  | handle (op : RecordOp)
  /-- Performs an operation of a session. -/
  | perform (session : String) (op : SessionOp)

/-- What comes of a step. -/
structure Outcome where
  result : Except Failure Answer
  log : List LogEntry
  world : World

namespace World

/-- The place of the session of a name. -/
def placeOf (w : World) (name : String) : Except Failure Place :=
  match (w.names.get? name).bind (w.sessions[·]?) with
  | some p => .ok p
  | none => .error (.noSession name)

/-- The workbench of a session. -/
def benchOf (w : World) (p : Place) : Workbench where
  session := p.session
  settings := w.settings.getD p.settings default
  source := w.sources.getD p.source (.ofSeed (.int w.entropy))
  records := w.shelf.records

/-- Adds settings. -/
def addSettings (w : World) (s : Settings) : Nat × World :=
  (w.settings.size, { w with settings := w.settings.push s })

/-- Finds or makes the settings of a new session. -/
def provideSettings (w : World) : OptionsSpec → Except Failure (Nat × World)
  | .shared name => do .ok ((← w.placeOf name).settings, w)
  | .defaults => .ok (w.addSettings (.ofOptions .defaults))
  | .configured request =>
    match Options.configure w.env w.tree request with
    | .ok c => .ok (w.addSettings c.settings)
    | .error f => .error (.options f)

/-- Adds a random source. -/
def addSource (w : World) (s : Source) : Nat × World :=
  (w.sources.size, { w with sources := w.sources.push s })

/-- Finds or makes the random source of a new session. -/
def provideSource (w : World) : SourceSpec → Except Failure (Nat × World)
  | .shared name => do .ok ((← w.placeOf name).source, w)
  | .fresh => .ok (w.addSource (.ofSeed (.int w.entropy)))
  | .script numbers => .ok (w.addSource (.ofScript numbers))
  | .seeded own => .ok (w.addSource (.ofSeed (.int own)))

/-- Puts back what a session has worked with. -/
def restore (w : World) (i : Nat) (p : Place) (bench : Workbench) : World :=
  { w with
    shelf := { w.shelf with records := bench.records }
    settings := w.settings.setIfInBounds p.settings bench.settings
    sources := w.sources.setIfInBounds p.source bench.source
    sessions := w.sessions.setIfInBounds i { p with session := bench.session } }

/-- The seed of a new session: its own, or else that of its settings. -/
def chooseSeed (own : Value) (s : Settings) : Value :=
  match own with
  | .null => s.get .seed
  | own => own

/-- Starts the random source of a session and announces the session. -/
def inaugurate : Action Unit := do
  reseed
  announce

/-- Starts a session and gives its place. -/
def launch (w : World) (spec : Spec) : Except Failure (Nat × List LogEntry × World) := do
  let (settings, w) ← w.provideSettings spec.options
  let seed := chooseSeed spec.seed (w.settings.getD settings default)
  let (source, w) ← w.provideSource spec.source
  let p : Place := ⟨{ seed := seed, logger := spec.logger }, settings, source⟩
  let i := w.sessions.size
  let w := { w with sessions := w.sessions.push p }
  match inaugurate.run.run (w.benchOf p) with
  | (.ok (), bench) => .ok (i, bench.log, w.restore i p bench)
  | (.error f, _) => .error (.session f)

/-- The seed of the session at a place, which must not be too long to be shown. -/
def seedAt (w : World) (i : Nat) : Except Failure Value :=
  match showable ((w.sessions[i]?.map (·.session.seed)).getD .null) with
  | .ok seed => .ok seed
  | .error f => .error (.session f)

/-- Starts a session under a name.  A session with a seed that cannot be shown is started,
    but gets no name and its log is not shown either. -/
def start (w : World) (spec : Spec) (name : String) : Outcome :=
  match w.launch spec with
  | .error f => ⟨.error f, [], w⟩
  | .ok (i, log, w) =>
    match w.seedAt i with
    | .error f => ⟨.error f, [], w⟩
    | .ok seed => ⟨.ok (.started seed), log, { w with names := w.names.put name i }⟩

/-- The common session, started if there is none. -/
def commonPlace (w : World) : Except Failure (Nat × List LogEntry × World) :=
  match w.common with
  | some i => .ok (i, [], w)
  | none => do
    let (i, log, w) ← w.launch { options := .defaults }
    .ok (i, log, { w with common := some i })

/-- Gives a name to the common session, and tells the names it has already. -/
def nameCommon (w : World) (name : String) : Outcome :=
  match w.commonPlace with
  | .error f => ⟨.error f, [], w⟩
  | .ok (i, log, w) =>
    let known := (w.names.entries.filter fun e => e.2 = i).map Prod.fst
    let sameAs := known.mergeSort fun a b => a ≤ b
    match w.seedAt i with
    | .error f => ⟨.error f, log, w⟩
    | .ok seed => ⟨.ok (.common sameAs seed), log, { w with names := w.names.put name i }⟩

/-- Performs an operation on records. -/
def handle (w : World) (op : RecordOp) : Outcome :=
  let (result, shelf) := (performRecord op).run.run w.shelf
  ⟨result, [], { w with shelf := shelf }⟩

/-- Performs an operation of a session. -/
def performWith (w : World) (name : String) (op : SessionOp) : Outcome :=
  match w.names.get? name, w.placeOf name with
  | some i, .ok p =>
    let scene : Scene := ⟨w.benchOf p, w.shelf.labels⟩
    let (result, scene) := (performSession op).run.run scene
    ⟨result, scene.bench.log, { w.restore i p scene.bench with shelf := scene.shelf }⟩
  | _, _ => ⟨.error (.noSession name), [], w⟩

/-- Does one step. -/
def step (w : World) : Step → Outcome
  | .start spec name => w.start spec name
  | .common name => w.nameCommon name
  | .dropCommon => ⟨.ok .done, [], { w with common := none }⟩
  | .handle op => w.handle op
  | .perform name op => w.performWith name op

/-- Does a step several times and collects the answers; the first failure ends it. -/
def stepTimes (w : World) (s : Step) : (times : Nat) → (answers : List Answer) →
    (logs : List (List LogEntry)) → Outcome
  | 0, answers, logs => ⟨.ok (.several answers.reverse), logs.reverse.flatten, w⟩
  | times + 1, answers, logs =>
    let o := w.step s
    match o.result with
    | .ok a => o.world.stepTimes s times (a :: answers) (o.log :: logs)
    | .error f => ⟨.error f, (o.log :: logs).reverse.flatten, o.world⟩

end World

/-! ## The package -/

/-- Name of the package. -/
def packageName : String := "javagen"

/-- Version of the package. -/
def version : String := "0.3.0"

/-- The names that the package offers. -/
def publicNames : List String := [
  "CallSite", "Clazz", "ConfigError", "Field", "GenerationSession", "GeneratorConfig",
  "GeneratorError", "Method", "NamingError", "PRIMITIVES", "UnknownTypeError", "VERSION",
  "VarType", "Variable", "get_session", "java_type", "reset_session"]

end JavaFragments.Script
