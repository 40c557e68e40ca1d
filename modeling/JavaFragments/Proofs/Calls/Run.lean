import JavaFragments.Proofs.Calls.Statement

/-! # Runs of calls

A session writes calls one after another.  Variables may come up again, as targets and as
arguments, and a variable that has lost its certain value does not get it back.  `CallLaw`
says what comes of a whole run, in terms of its calls and of the numbers drawn for them:

* `result_methodCalls`   a run is what its events do one after another
* `get_foldl_mark`       the records after a run
* `lawful_methodCalls`   every run of well-typed calls follows the law -/

namespace JavaFragments

namespace Random.Source

open Number

/-- The source after a number of answers. -/
def skip : Nat → Source → Source
  | 0, s => s
  | n + 1, s => skip n s.random.2

/-- The next answers of a source. -/
def randoms : Nat → Source → List Binary64
  | 0, _ => []
  | n + 1, s => s.random.1 :: randoms n s.random.2

/-- There are as many answers as are asked for. -/
private theorem length_randoms (n : Nat) (s : Source) : (s.randoms n).length = n := by
  induction n generalizing s with
  | zero => rfl
  | succ n ih => rw [randoms, List.length_cons, ih]

/-- Each answer is counted. -/
private theorem draws_skip (n : Nat) (s : Source) : (s.skip n).draws = s.draws + n := by
  induction n generalizing s with
  | zero => rfl
  | succ n ih => rw [skip, ih, draws_random]; omega

end Random.Source

namespace Session

open Fragment Number JavaFragments.Random

/-- Writes calls one after another. -/
def methodCalls : List Call → Action (List CallSite)
  | [] => return []
  | c :: calls => do
    let site ← methodCall c.method c.target c.args
    return site :: (← methodCalls calls)

/-- The variable is not certain to have a value. -/
def Unavailable (r : Records) (id : RecordId) : Prop :=
  (r.get id).get .available = .ok (.bool false)

/-- A wrapped call of the run declares the variable. -/
def LeftUncertain (x : Binary64) (events : List CallEvent) (id : RecordId) : Prop :=
  ∃ e ∈ events, e.wrapped x ∧ e.parts.declared = false ∧ e.call.target = id

/-- How many calls are of methods that throw. -/
def throwing (parts : Call → CallParts) (calls : List Call) : Nat :=
  calls.countP fun c => (parts c).throws

/-- What comes of a run of calls, by the weight `x` and the events of the run, from a
    workbench `w` to a workbench `v`. -/
structure CallLaw (x : Binary64) (parts : Call → CallParts) (calls : List Call)
    (events : List CallEvent) (sites : List CallSite) (w v : Workbench) : Prop where
  /-- Every call happens once and in its turn. -/
  order : events.map (fun e => (e.call, e.parts)) = calls.map fun c => (c, parts c)
  /-- A number is drawn for a method that throws, and for no other one. -/
  drawn : ∀ e ∈ events, e.drawn?.isSome = e.parts.throws
  /-- The numbers are those that the source answers with. -/
  numbers : events.filterMap (·.drawn?) = w.source.randoms (throwing parts calls)
  /-- They are from zero on and below one. -/
  interval : ∀ e ∈ events, ∀ u ∈ e.drawn?, Source.InUnitInterval u
  source : v.source = w.source.skip (throwing parts calls)
  draws : v.source.draws = w.source.draws + throwing parts calls
  written : sites = events.map (·.site x)
  /-- The method around has to declare what is thrown and not caught. -/
  mayThrow : ∀ e ∈ events, (e.site x).mayThrow = (e.parts.throws && !e.wrapped x)
  log : v.log = w.log ++ events.flatMap (·.entries w.session.logger x)
  logged : v.log.length = w.log.length + throwing parts calls
  session : v.session = w.session
  settings : v.settings = w.settings
  /-- What has lost its certain value does not get it back. -/
  unavailable : ∀ id, Unavailable v.records id ↔
    Unavailable w.records id ∨ LeftUncertain x events id
  marked : ∀ id, LeftUncertain x events id →
    v.records.get id = (w.records.get id).set .available (.bool false)
  unmarked : ∀ id, ¬ LeftUncertain x events id → v.records.get id = w.records.get id
  same : SameButAvailable w.records v.records
  /-- Only targets are marked. -/
  target : ∀ id, (∀ c ∈ calls, c.target ≠ id) → v.records.get id = w.records.get id
  /-- With a weight of one every call that throws is wrapped. -/
  always : Binary64.one.le x → ∀ site ∈ sites, site.mayThrow = false
  /-- With a weight of zero none is. -/
  never : x.le .zero → ∀ e ∈ events, e.wrapped x = false

/-! ## The events of a run -/

/-- The first call counts if its method throws. -/
private theorem throwing_cons (parts : Call → CallParts) (c : Call) (calls : List Call) :
    throwing parts (c :: calls) = throwing parts calls + if (parts c).throws then 1 else 0 :=
  List.countP_cons

/-- The calls of a run, each with the number that is drawn for it. -/
def callEvents (parts : Call → CallParts) : List Call → Source → List CallEvent
  | [], _ => []
  | c :: calls, s =>
    .of c (parts c) s :: callEvents parts calls (if (parts c).throws then s.random.2 else s)

/-- A number is drawn for a method that throws. -/
private theorem isSome_drawn_of (c : Call) (p : CallParts) (s : Source) :
    (CallEvent.of c p s).drawn?.isSome = p.throws := by
  cases h : p.throws <;> simp [CallEvent.of, h]

/-- A call leaves the source where the next call of the run finds it. -/
private theorem source_after_of (x : Binary64) (w : Workbench) (c : Call) (p : CallParts) :
    ((CallEvent.of c p w.source).after x w).source =
      if p.throws then w.source.random.2 else w.source := by
  simp only [CallEvent.after, isSome_drawn_of]

/-- What is true of every call with whatever is drawn for it is true of the events of a run. -/
private theorem forall_callEvents {P : CallEvent → Prop} {parts : Call → CallParts}
    {calls : List Call} (h : ∀ c ∈ calls, ∀ s, P (.of c (parts c) s)) (s : Source) :
    ∀ e ∈ callEvents parts calls s, P e := by
  induction calls generalizing s with
  | nil => exact List.forall_mem_nil _
  | cons c calls ih =>
    refine List.forall_mem_cons.2 ⟨h c List.mem_cons_self s, ?_⟩
    exact ih (fun d hd => h d (List.mem_cons_of_mem c hd)) _

/-- A number is drawn for a call exactly if its method throws. -/
private theorem isSome_drawn_callEvents (parts : Call → CallParts) (calls : List Call)
    (s : Source) :
    ∀ e ∈ callEvents parts calls s, e.drawn?.isSome = e.parts.throws :=
  forall_callEvents (fun c _ s => isSome_drawn_of c (parts c) s) s

/-- Whatever is drawn is from zero on and below one. -/
private theorem interval_callEvents (parts : Call → CallParts) (calls : List Call) (s : Source) :
    ∀ e ∈ callEvents parts calls s, ∀ u ∈ e.drawn?, Source.InUnitInterval u := by
  refine forall_callEvents (fun c _ s u hu => ?_) s
  cases h : (parts c).throws with
  | true =>
    have hfirst : s.random.1 = u := by simpa [CallEvent.of, h] using hu
    exact hfirst ▸ s.random_mem
  | false => simp [CallEvent.of, h] at hu

/-- The events are those of the calls, in their order. -/
private theorem order_callEvents (parts : Call → CallParts) (calls : List Call) (s : Source) :
    (callEvents parts calls s).map (fun e => (e.call, e.parts)) =
      calls.map fun c => (c, parts c) := by
  induction calls generalizing s with
  | nil => rfl
  | cons c calls ih => rw [callEvents, List.map_cons, ih, List.map_cons]; rfl

/-- The numbers of a run are the next answers of the source. -/
private theorem drawn_callEvents (parts : Call → CallParts) (calls : List Call) (s : Source) :
    (callEvents parts calls s).filterMap (·.drawn?) = s.randoms (throwing parts calls) := by
  induction calls generalizing s with
  | nil => rfl
  | cons c calls ih =>
    rw [throwing_cons, callEvents]
    -- a call without a number leaves the answers to those after it
    cases h : (parts c).throws with
    | true => simp [CallEvent.of, h, ih, Source.randoms]
    | false => simp [CallEvent.of, h, ih]

/-- A run of calls is what its events do one after another. -/
theorem result_methodCalls {x : Binary64} {parts : Call → CallParts} {calls : List Call}
    {w : Workbench} (hparts : ∀ c ∈ calls, c.HasParts w.records (parts c))
    (hx : w.settings.get .tryCatchWeight = .float x) (hs : w.source.fault? = none) :
    (methodCalls calls).result w =
      (.ok ((callEvents parts calls w.source).map (·.site x)),
        (callEvents parts calls w.source).foldl (CallEvent.after x) w) := by
  -- on the calls; the invariant is that all of them have the parts that they had at the start
  induction calls generalizing w with
  | nil => rfl
  | cons c calls ih =>
    have hc := hparts c List.mem_cons_self
    let e := CallEvent.of c (parts c) w.source
    have hsource := source_after_of x w c (parts c)
    -- the other calls are about the same parts after the first one, whatever it has marked
    have hrest := ih (w := e.after x w)
      (fun d hd => (hparts d (List.mem_cons_of_mem c hd)).of_same (e.sameButAvailable_mark hc x))
      hx (by rw [hsource]; split <;> simp [hs])
    rw [hsource] at hrest
    simp only [methodCalls, Action.result_bind, result_methodCall hc hx hs, hrest,
      Action.result_pure, callEvents, List.map_cons, List.foldl_cons, e]

/-! ## The workbench after a run -/

section After

variable (x : Binary64) (events : List CallEvent) (w : Workbench)

/-- Calls do not touch the session. -/
private theorem session_foldl_after : (events.foldl (CallEvent.after x) w).session = w.session := by
  induction events generalizing w with
  | nil => rfl
  | cons e events ih => exact ih _

/-- Nor do they touch the settings. -/
private theorem settings_foldl_after :
    (events.foldl (CallEvent.after x) w).settings = w.settings := by
  induction events generalizing w with
  | nil => rfl
  | cons e events ih => exact ih _

/-- Each call adds its messages behind those before it. -/
private theorem log_foldl_after :
    (events.foldl (CallEvent.after x) w).log =
      w.log ++ events.flatMap (·.entries w.session.logger x) := by
  induction events generalizing w with
  | nil => simp
  | cons e events ih => simp [ih, CallEvent.after, List.append_assoc]

/-- All that calls do to records is to mark them. -/
private theorem records_foldl_after :
    (events.foldl (CallEvent.after x) w).records = events.foldl (CallEvent.mark x) w.records := by
  induction events generalizing w with
  | nil => rfl
  | cons e events ih => exact ih _

end After

/-- The source after a run has answered once for each method that throws. -/
private theorem source_foldl_after (x : Binary64) (parts : Call → CallParts) (calls : List Call)
    (w : Workbench) :
    ((callEvents parts calls w.source).foldl (CallEvent.after x) w).source =
      w.source.skip (throwing parts calls) := by
  induction calls generalizing w with
  | nil => rfl
  | cons c calls ih =>
    have hrest := ih ((CallEvent.of c (parts c) w.source).after x w)
    rw [source_after_of] at hrest
    rw [callEvents, List.foldl_cons, hrest, throwing_cons]
    cases (parts c).throws <;> rfl

/-- One message is logged for each number that is drawn. -/
private theorem length_entries (logger : String) (x : Binary64) (events : List CallEvent) :
    (events.flatMap (·.entries logger x)).length = (events.filterMap (·.drawn?)).length := by
  induction events with
  | nil => rfl
  | cons e events ih =>
    rw [List.flatMap_cons, List.length_append, ih]
    cases h : e.drawn? <;> simp [CallEvent.entries, h, Nat.add_comm]

/-! ## The records after a run -/

/-- A record is marked at most once. -/
private theorem set_set (d : Record) (a : Attribute) (v : Value) :
    (d.set a v).set a v = d.set a v := by
  simp only [Record.set, OrderedMap.put_put]

/-- A variable is left uncertain by the first call or by a later one. -/
private theorem leftUncertain_cons {x : Binary64} {e : CallEvent} {events : List CallEvent}
    {id : RecordId} :
    LeftUncertain x (e :: events) id ↔
      (e.marks x ∧ e.call.target = id) ∨ LeftUncertain x events id := by
  simp [LeftUncertain, CallEvent.marks, and_assoc]

/-- A record after one call. -/
private theorem get_mark {x : Binary64} {e : CallEvent} {r : Records}
    (h : e.call.target.index < r.all.size) (id : RecordId) :
    (e.mark x r).get id =
      if e.marks x ∧ e.call.target = id then (r.get id).set .available (.bool false)
      else r.get id := by
  unfold CallEvent.mark
  cases e.marks x with
  | true => simp only [if_true, true_and, get_assign h]
  | false => simp

/-- A mark adds no record. -/
private theorem size_mark (x : Binary64) (e : CallEvent) (r : Records) :
    (e.mark x r).all.size = r.all.size := by
  unfold CallEvent.mark
  split <;> simp [Records.assign]

open Classical in
/-- A record after a run: a mark stays for good. -/
theorem get_foldl_mark {x : Binary64} {events : List CallEvent} {r : Records}
    (h : ∀ e ∈ events, e.call.target.index < r.all.size) (id : RecordId) :
    (events.foldl (CallEvent.mark x) r).get id =
      if LeftUncertain x events id then (r.get id).set .available (.bool false)
      else r.get id := by
  induction events generalizing r with
  | nil => simp [LeftUncertain]
  | cons e events ih =>
    obtain ⟨he, hevents⟩ := List.forall_mem_cons.1 h
    rw [List.foldl_cons, ih (by simpa only [size_mark] using hevents), get_mark he]
    -- a second mark on the same record changes nothing
    by_cases hmarks : e.marks x ∧ e.call.target = id
    · simp [leftUncertain_cons, hmarks, set_set]
    · simp [leftUncertain_cons, hmarks]

/-- The records after a run differ from those before it in marks only. -/
private theorem sameButAvailable_of_get {x : Binary64} {events : List CallEvent} {r r' : Records}
    (hmarked : ∀ id, LeftUncertain x events id → r'.get id = (r.get id).set .available (.bool false))
    (hunmarked : ∀ id, ¬ LeftUncertain x events id → r'.get id = r.get id) :
    SameButAvailable r r' where
  name id := by
    by_cases h : LeftUncertain x events id
    · rw [Records.nameOf, hmarked id h]
      rfl
    · rw [Records.nameOf, hunmarked id h]
      rfl
  get id a ha := by
    by_cases h : LeftUncertain x events id
    · rw [hmarked id h, Record.get_set, if_neg (Ne.symm ha)]
    · rw [hunmarked id h]

/-- A variable without a certain value was without it before, or was marked in the run. -/
private theorem unavailable_iff_of_get {x : Binary64} {events : List CallEvent} {r r' : Records}
    (hmarked : ∀ id, LeftUncertain x events id → r'.get id = (r.get id).set .available (.bool false))
    (hunmarked : ∀ id, ¬ LeftUncertain x events id → r'.get id = r.get id) (id : RecordId) :
    Unavailable r' id ↔ Unavailable r id ∨ LeftUncertain x events id := by
  by_cases h : LeftUncertain x events id
  · simp [Unavailable, hmarked id h, Record.get_set, h]
  · simp [Unavailable, hunmarked id h, h]

/-! ## The law -/

/-- What is thrown gets out of a call exactly if the call is not wrapped. -/
private theorem mayThrow_site (x : Binary64) (e : CallEvent) :
    (e.site x).mayThrow = (e.parts.throws && !e.wrapped x) := by
  unfold CallEvent.site
  cases e.wrapped x <;> simp

/-- A call is wrapped if the weight is one at least and its method throws. -/
private theorem wrapped_of_one_le {x : Binary64} (hx : Binary64.one.le x) {e : CallEvent}
    (hdrawn : e.drawn?.isSome) (h : ∀ u ∈ e.drawn?, Source.InUnitInterval u) :
    e.wrapped x = true := by
  obtain ⟨u, hu⟩ := Option.isSome_iff_exists.1 hdrawn
  rw [CallEvent.wrapped, hu]
  -- every number that is drawn is below one
  exact Binary64.lt_of_lt_of_le (h u hu).2 hx

/-- No call is wrapped if the weight is zero at most. -/
private theorem not_wrapped_of_le_zero {x : Binary64} (hx : x.le .zero) {e : CallEvent}
    (h : ∀ u ∈ e.drawn?, Source.InUnitInterval u) : e.wrapped x = false := by
  cases hu : e.drawn? with
  | none => rw [CallEvent.wrapped, hu]; rfl
  | some u =>
    rw [CallEvent.wrapped, hu]
    -- and none is below zero
    exact Binary64.not_lt_of_le (Binary64.le_trans hx (h u hu).1)

/-- Every run of calls whose parts are well-typed follows the law of calls, whatever the
    weight, the source and the variables that come up again. -/
theorem lawful_methodCalls {calls : List Call} {w : Workbench} {x : Binary64}
    {parts : Call → CallParts} (hparts : ∀ c ∈ calls, c.HasParts w.records (parts c))
    (hx : w.settings.get .tryCatchWeight = .float x) (hs : w.source.fault? = none) :
    ∃ events sites v, (methodCalls calls).result w = (.ok sites, v) ∧
      CallLaw x parts calls events sites w v := by
  let events := callEvents parts calls w.source
  have hdrawn : ∀ e ∈ events, e.drawn?.isSome = e.parts.throws :=
    isSome_drawn_callEvents parts calls w.source
  have hinterval : ∀ e ∈ events, ∀ u ∈ e.drawn?, Source.InUnitInterval u :=
    interval_callEvents parts calls w.source
  have htarget : ∀ e ∈ events, e.call ∈ calls := forall_callEvents (fun c hc _ => hc) _
  have hsize : ∀ e ∈ events, e.call.target.index < w.records.all.size :=
    fun e he => (hparts _ (htarget e he)).lt_size
  -- all that the law says of the records comes from what becomes of a single one
  let v := events.foldl (CallEvent.after x) w
  have hrecords : v.records = events.foldl (CallEvent.mark x) w.records :=
    records_foldl_after x events w
  have hmarked : ∀ id, LeftUncertain x events id →
      v.records.get id = (w.records.get id).set .available (.bool false) := by
    intro id h
    rw [hrecords, get_foldl_mark hsize, if_pos h]
  have hunmarked : ∀ id, ¬ LeftUncertain x events id → v.records.get id = w.records.get id := by
    intro id h
    rw [hrecords, get_foldl_mark hsize, if_neg h]
  have hsource : v.source = w.source.skip (throwing parts calls) :=
    source_foldl_after x parts calls w
  have hlog := log_foldl_after x events w
  refine ⟨events, _, v, result_methodCalls hparts hx hs, ?_⟩
  exact {
    order := order_callEvents parts calls w.source
    drawn := hdrawn
    numbers := drawn_callEvents parts calls w.source
    interval := hinterval
    source := hsource
    draws := by rw [hsource, Source.draws_skip]
    written := rfl
    mayThrow := fun e _ => mayThrow_site x e
    log := hlog
    logged := by
      rw [hlog, List.length_append, length_entries, drawn_callEvents, Source.length_randoms]
    session := session_foldl_after x events w
    settings := settings_foldl_after x events w
    unavailable := unavailable_iff_of_get hmarked hunmarked
    marked := hmarked
    unmarked := hunmarked
    same := sameButAvailable_of_get hmarked hunmarked
    target := by
      intro id hid
      apply hunmarked
      rintro ⟨e, he, -, -, h⟩
      exact hid _ (htarget e he) h
    always := by
      intro hone site hsite
      obtain ⟨e, he, rfl⟩ := List.mem_map.1 hsite
      rw [mayThrow_site]
      cases hthrows : e.parts.throws with
      | false => rfl
      | true =>
        rw [wrapped_of_one_le hone ((hdrawn e he).trans hthrows) (hinterval e he)]
        rfl
    never := fun hzero e he => not_wrapped_of_le_zero hzero (hinterval e he) }

/-- Two methods, one of which throws, and two variables that are not declared. -/
def mixedRecords : Records where
  all := #[.ofMethod (.str "risky") (.kind .int) (.str "") .empty (.str "Class_0") (.bool true),
    .ofMethod (.str "safe") (.kind .int) (.str "") .empty (.str "Class_0") (.bool false),
    .ofVar (.str "a") (.kind .int) (.bool false) (.bool true),
    .ofVar (.str "b") (.kind .int) (.bool false) (.bool true)]

/-- A session whose source answers zero and one half in turn, with the weight one quarter. -/
def mixedBench : Workbench where
  session := {}
  settings := (default : Settings).set .tryCatchWeight (.float (.ofRatio 1 4))
  source := .ofScript [0, 2 ^ 52]
  records := mixedRecords

/-- A call of `risky` that is assigned to `a`, one that is assigned to `b`, and a call of
    `safe` that is assigned to `a` again.  Each has the other variable for an argument. -/
def mixedCalls : List Call := [⟨⟨0⟩, ⟨2⟩, [⟨3⟩]⟩, ⟨⟨0⟩, ⟨3⟩, [⟨2⟩]⟩, ⟨⟨1⟩, ⟨2⟩, [⟨3⟩]⟩]

/-- What the mixed records say about a call. -/
def mixedParts (c : Call) : CallParts where
  owner := "Class_0"
  method := if c.method = ⟨0⟩ then "risky" else "safe"
  throws := c.method = ⟨0⟩
  target := if c.target = ⟨2⟩ then "a" else "b"
  type := .int
  declared := false
  args := c.args.map fun id => if id = ⟨2⟩ then "a" else "b"

/-- Of the mixed calls the first is wrapped, and its variable stays without a certain value. -/
theorem lawful_methodCalls_mixed :
    ∃ events sites v, (methodCalls mixedCalls).result mixedBench = (.ok sites, v) ∧
      CallLaw (.ofRatio 1 4) mixedParts mixedCalls events sites mixedBench v := by
  refine lawful_methodCalls ?_ rfl rfl
  intro c hc
  simp only [mixedCalls, List.mem_cons, List.not_mem_nil, or_false] at hc
  rcases hc with rfl | rfl | rfl <;> exact ⟨rfl, rfl, rfl, rfl, rfl, rfl, rfl⟩

end Session

end JavaFragments
