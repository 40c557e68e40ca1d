import JavaFragments.Proofs.Records.Construction
import JavaFragments.Proofs.Records.Reparenting
import JavaFragments.Proofs.Replay.Reset

/-! # Parents that are set

Another parent changes the ancestors of a class and of all that are below it, and may put an end to
them.  Where classes only get a parent when they are made, whatever else is done in whatever
sessions, every class has its ancestors at all times:

* `descending_step`, `descending_after`   steps that set no parent keep parents older
* `ancestors_setParent`   what another parent does, and what happens without one -/

namespace JavaFragments

open Fragment Session

namespace Script

/-- A step that assigns to a parent. -/
def Step.SetsParent : Step → Prop
  | handle op => op.SetsParent
  | _ => False

namespace World

/-- The world after steps one after the other, also after failures. -/
def after (w : World) (steps : List Step) : World := steps.foldl (fun w s => (w.step s).world) w

/-- A session starts its source and says so, without a look at the records. -/
private theorem maintains_inaugurate : Maintains Workbench.Descending inaugurate :=
  maintains_reseed.bind fun _ => maintains_announce

/-- The start of a session leaves the records as they are. -/
private theorem descending_launch {w w' : World} (h : w.shelf.records.Descending) {spec : Spec}
    {i : Nat} {log : List LogEntry} (hlaunch : w.launch spec = .ok (i, log, w')) :
    w'.shelf.records.Descending := by
  obtain ⟨o, v, -, -, hrecords, hstart, -, hkept⟩ := exists_opening_of_launch hlaunch
  -- the session starts on the records that are there
  have hbench : o.bench.Descending := by
    show o.records.Descending
    rw [hrecords]
    exact h
  have hv : (inaugurate.result o.bench).2.Descending := maintains_inaugurate o.bench hbench
  rw [hstart] at hv
  rw [hkept]
  exact hv

/-- So does a session that is started, whether it can be or not. -/
private theorem descending_start {w : World} (h : w.shelf.records.Descending) (spec : Spec)
    (name : String) : (w.start spec name).world.shelf.records.Descending := by
  unfold start
  cases hlaunch : w.launch spec with
  | error f => exact h
  | ok launched =>
    obtain ⟨i, log, w'⟩ := launched
    have hw' := descending_launch h hlaunch
    simp only
    cases w'.seedAt i with
    | error f => exact hw'
    | ok seed => exact hw'

/-- The common session is started once, and then it is there. -/
private theorem descending_nameCommon {w : World} (h : w.shelf.records.Descending) (name : String) :
    (w.nameCommon name).world.shelf.records.Descending := by
  -- the common session is there or has to be started
  have hplace : ∀ {i log w'}, w.commonPlace = .ok (i, log, w') → w'.shelf.records.Descending := by
    intro i log w' hplace
    unfold commonPlace at hplace
    cases hcommon : w.common with
    | some j =>
      rw [hcommon] at hplace
      obtain ⟨-, -, rfl⟩ := hplace
      exact h
    | none =>
      rw [hcommon, bind_eq_ok_iff] at hplace
      obtain ⟨⟨j, log', w''⟩, hlaunch, hplace⟩ := hplace
      have hw'' := descending_launch h hlaunch
      obtain ⟨-, -, rfl⟩ := hplace
      exact hw''
  unfold nameCommon
  cases hcommon : w.commonPlace with
  | error f => exact h
  | ok placed =>
    obtain ⟨i, log, w'⟩ := placed
    have hw' := hplace hcommon
    simp only
    cases w'.seedAt i with
    | error f => exact hw'
    | ok seed => exact hw'

/-- An operation of a session makes classes below older ones only. -/
theorem descending_performWith {w : World} (h : w.shelf.records.Descending) (name : String)
    (op : SessionOp) : (w.performWith name op).world.shelf.records.Descending := by
  unfold performWith
  -- a name without a session is refused
  split
  · exact maintains_performSession op _ h
  · exact h

/-- A step that assigns to no parent keeps parents older. -/
theorem descending_step {w : World} (h : w.shelf.records.Descending) {s : Step}
    (hs : ¬ s.SetsParent) : (w.step s).world.shelf.records.Descending := by
  cases s with
  | start spec name => exact descending_start h spec name
  | common name => exact descending_nameCommon h name
  | dropCommon => exact h
  | handle op => exact maintains_performRecord hs w.shelf h
  | perform name op => exact descending_performWith h name op

/-- Steps that assign to no parent keep parents older. -/
theorem descending_after {w : World} (h : w.shelf.records.Descending) {steps : List Step}
    (hsteps : ∀ s ∈ steps, ¬ s.SetsParent) : (w.after steps).shelf.records.Descending := by
  -- each step starts with parents that are older
  induction steps generalizing w with
  | nil => exact h
  | cons s steps ih =>
    obtain ⟨hs, hrest⟩ := List.forall_mem_cons.1 hsteps
    exact ih (descending_step h hs) hrest

end World

end Script

namespace Records

open Script

/-- In records where all classes have their ancestors one class gets another one for its parent.
    Then its walk comes round exactly if it was that class or above it; else its ancestors are the
    new parent and those of it.  Another class that did not have it for an ancestor keeps its
    ancestors, and one that did keeps them up to it and has those of it behind, or comes round
    as well.

    If no step ever assigns to a parent, in whatever sessions and with whatever failures, all
    classes that there are have their ancestors. -/
theorem ancestors_setParent :
    (∀ (r : Records) (old : RecordId → List RecordId), r.WellParented →
      (∀ d, r.IsClass d → r.ancestors d = .ok (old d)) →
      ∀ c p, r.IsClass c → r.IsClass p →
        ((r.setParent c (some p)).ComesRound c ↔ p = c ∨ c ∈ old p) ∧
        (¬ (p = c ∨ c ∈ old p) → (r.setParent c (some p)).ancestors c = .ok (p :: old p)) ∧
        ∀ d, r.IsClass d → d ≠ c →
          (c ∉ old d → (r.setParent c (some p)).ancestors d = .ok (old d)) ∧
          ∀ front rest, old d = front ++ c :: rest →
            (∀ new, (r.setParent c (some p)).ancestors c = .ok new →
              (r.setParent c (some p)).ancestors d = .ok (front ++ c :: new)) ∧
            ((r.setParent c (some p)).ComesRound c → (r.setParent c (some p)).ComesRound d)) ∧
    ∀ (w : World) (steps : List Step), w.shelf.records = .empty →
      (∀ s ∈ steps, ¬ s.SetsParent) → ∀ c, (w.after steps).shelf.records.IsClass c →
        ∃ ids, (w.after steps).shelf.records.ancestors c = .ok ids := by
  constructor
  · -- one class gets another parent
    intro r old h hold c p hc hp
    obtain ⟨hround, habove⟩ := ancestors_setParent_self h hc hp (hold p hp)
    exact ⟨hround, habove, fun d hd hdc => ancestors_setParent_below h hc hp hd hdc (hold d hd)⟩
  · intro w steps hempty hsteps c hc
    have hstart : w.shelf.records.Descending := hempty ▸ descending_empty
    exact (World.descending_after hstart hsteps).ancestors hc

/-- Two trees: a line of four classes and a class by itself. -/
def twoTrees : Records where
  all := #[.ofClass (.str "A") (place none) (.int 0) (.int 0),
    .ofClass (.str "B") (place (some ⟨0⟩)) (.int 0) (.int 0),
    .ofClass (.str "C") (place (some ⟨1⟩)) (.int 0) (.int 0),
    .ofClass (.str "D") (place (some ⟨2⟩)) (.int 0) (.int 0),
    .ofClass (.str "E") (place none) (.int 0) (.int 0)]

/-- A class, and below it one that a session makes. -/
def twoClasses : List Step := [
  .handle (.addClass "A" none 0 0 (some "a")),
  .start { options := .defaults, source := .script [0] } "s",
  .perform "s" (.newClass (some "a") (some "b"))]

/-- The second class of the line goes below the other tree, and then the first one below the last. -/
theorem ancestors_setParent_twoTrees :
    (twoTrees.setParent ⟨1⟩ (some ⟨4⟩)).ancestors ⟨1⟩ = .ok [⟨4⟩] ∧
      (twoTrees.setParent ⟨1⟩ (some ⟨4⟩)).ancestors ⟨3⟩ = .ok [⟨2⟩, ⟨1⟩, ⟨4⟩] ∧
      (twoTrees.setParent ⟨0⟩ (some ⟨3⟩)).ComesRound ⟨0⟩ ∧
      (twoTrees.setParent ⟨0⟩ (some ⟨3⟩)).ComesRound ⟨2⟩ ∧
      (({} : World).after twoClasses).shelf.records.IsClass ⟨2⟩ ∧
      ∃ ids, (({} : World).after twoClasses).shelf.records.ancestors ⟨2⟩ = .ok ids := by
  have h : twoTrees.WellParented := by
    apply wellParented_of_classes
    intro d hd
    simp only [twoTrees, List.mem_toArray, List.mem_cons, List.not_mem_nil, or_false] at hd
    rcases hd with rfl | rfl | rfl | rfl | rfl
    · exact ⟨"A", none, rfl, rfl, rfl, nofun⟩
    · exact ⟨"B", some ⟨0⟩, rfl, rfl, rfl, fun p hp => Option.some.inj hp ▸ by decide⟩
    · exact ⟨"C", some ⟨1⟩, rfl, rfl, rfl, fun p hp => Option.some.inj hp ▸ by decide⟩
    · exact ⟨"D", some ⟨2⟩, rfl, rfl, rfl, fun p hp => Option.some.inj hp ▸ by decide⟩
    · exact ⟨"E", none, rfl, rfl, rfl, nofun⟩
  let old : RecordId → List RecordId := fun d =>
    [[], [⟨0⟩], [⟨1⟩, ⟨0⟩], [⟨2⟩, ⟨1⟩, ⟨0⟩], []].getD d.index []
  -- the old ancestors, class by class
  have hold : ∀ d, twoTrees.IsClass d → twoTrees.ancestors d = .ok (old d) := by
    rintro ⟨i⟩ hd
    have hlt : i < 5 := hd.lt_size
    match i with
    | 0 | 1 | 2 | 3 | 4 => rfl
    | _ + 5 => omega
  obtain ⟨-, hmoved, hbelow⟩ := ancestors_setParent.1 twoTrees old h hold ⟨1⟩ ⟨4⟩ rfl rfl
  obtain ⟨hround, -, hbelow'⟩ := ancestors_setParent.1 twoTrees old h hold ⟨0⟩ ⟨3⟩ rfl rfl
  -- the second class is not above the other tree, so it moves; the first one is above the last
  have hnew := hmoved (by decide)
  have hcomes := hround.2 (.inr (by decide))
  have hclass : ((({} : World).after twoClasses).shelf.records.get ⟨2⟩).sort = .classDecl := by
    decide +kernel
  have hsteps : ∀ s ∈ twoClasses, ¬ s.SetsParent := by
    simp [twoClasses, Step.SetsParent, RecordOp.SetsParent]
  exact ⟨hnew, ((hbelow ⟨3⟩ rfl (by decide)).2 [⟨2⟩] [⟨0⟩] rfl).1 _ hnew, hcomes,
    ((hbelow' ⟨2⟩ rfl (by decide)).2 [⟨1⟩] [] rfl).2 hcomes, hclass,
    ancestors_setParent.2 {} twoClasses rfl hsteps ⟨2⟩ hclass⟩

end Records

end JavaFragments
