import JavaFragments.Options.Check
import JavaFragments.Proofs.Calls.Statement
import JavaFragments.Proofs.Effects.Answers
import JavaFragments.Proofs.Options.FileValue

/-! # What calls cost

A call of a method that throws costs one answer of the source.  It costs nothing if it fails,
as it is written before the number is drawn and nothing goes wrong after that: the weight was
accepted, so that the number can be compared with it.

* `isBadNumber_of_whole`, `exists_holds_less`   what the check of the options guarantees
* `callSpends_methodCall`                       what a call leaves of the source -/

namespace JavaFragments

namespace Session

open Fragment JavaFragments.Random

variable {α : Type}

/-! ## Options that were accepted -/

/-- What is accepted was accepted by every check. -/
private theorem of_check_eq_ok {s : Settings} (h : s.check = .ok ()) :
    Settings.checkWeight (s.get .tryCatchWeight) = .ok () ∧
      s.checkPositive .floatScale = .ok () := by
  simp only [Settings.check, bind_eq_ok_iff] at h
  obtain ⟨_, hweight, _, -, _, -, _, -, _, hscale, -⟩ := h
  exact ⟨hweight, hscale⟩

/-- A scale that was accepted is a number, if perhaps not a whole one. -/
theorem isBadNumber_of_whole {s : Settings} (h : s.check = .ok ()) {m : Misuse}
    (hm : (s.get .floatScale).whole .low = .error m) : m.isBadNumber := by
  have hscale := (of_check_eq_ok h).2
  unfold Settings.checkPositive Settings.holds Value.holds at hscale
  -- whatever else it is, it would not have passed the comparison with one
  generalize s.get .floatScale = v at hscale hm
  cases v with
  | bool b => cases hm
  | int n => cases hm
  | float x =>
    cases x with
    | nan payload => cases hm; rfl
    | signed negative magnitude =>
      simp only [Value.whole] at hm
      split at hm
      · cases hm; rfl
      · split at hm
        · cases hm; rfl
        · cases hm
  | null => cases hscale
  | str t => cases hscale
  | list vs => cases hscale
  | kind k => cases hscale

/-- Every floating-point number is somewhere, or nowhere. -/
private theorem exists_place (u : Number.Binary64) : ∃ p, (Value.float u).place? = some p := by
  cases u with
  | nan payload => exact ⟨_, rfl⟩
  | signed negative m => cases hm : m.isFinite <;> simp [Value.place?, hm]

/-- A weight that was accepted is a number that others can be compared with. -/
theorem exists_holds_less {s : Settings} (h : s.check = .ok ()) (u : Number.Binary64) :
    ∃ b, Value.holds .less (.float u) (s.get .tryCatchWeight) = .ok b := by
  have hweight := (of_check_eq_ok h).1
  unfold Settings.checkWeight Settings.holds Value.holds at hweight
  -- whatever else it is, it would not have passed the comparison with zero
  generalize s.get .tryCatchWeight = v at hweight ⊢
  obtain ⟨place, hplace⟩ := exists_place u
  cases v with
  | bool b =>
    simp only [Value.holds, Value.order?, hplace]
    exact ⟨_, rfl⟩
  | int n =>
    simp only [Value.holds, Value.order?, hplace]
    exact ⟨_, rfl⟩
  | float x => exact ⟨_, Value.holds_float .less u x⟩
  | null => cases hweight
  | str t => cases hweight
  | list vs => cases hweight
  | kind k => cases hweight

/-! ## Calls -/

/-- A call that can be written names its method and its variable, which can be asked whether it is
    declared. -/
private theorem of_assignment_eq_ok {m target : Record} {args : List Value} {text : String}
    (h : assignment m target args = .ok text) :
    (∃ callee, calleeText m = .ok callee) ∧ (∃ name, written target.name = .ok name) ∧
      ∃ declared, target.get .declared = .ok declared := by
  simp only [assignment, callText, typePrefix, bind_eq_ok_iff, orMisuse_eq_ok] at h
  obtain ⟨-, ⟨callee, hcallee, -⟩, -, ⟨declared, hdeclared, -⟩, name, hname, -⟩ := h
  exact ⟨⟨callee, hcallee⟩, ⟨name, hname⟩, declared, hdeclared⟩

/-- A callee is the same however the variables are marked. -/
theorem SameButAvailable.calleeText {r r' : Records} (h : SameButAvailable r r') (m : RecordId) :
    calleeText (r'.get m) = calleeText (r.get m) := by
  have hname : (r'.get m).name = (r.get m).name := h.name m
  rw [Fragment.calleeText, Fragment.calleeText, h.get m .owner (by decide), hname]

/-- Whether a variable has a certain value can be asked. -/
def HasAvailable (r : Records) (id : RecordId) : Prop := ∃ v, (r.get id).get .available = .ok v

/-- Marking a variable that can be asked whether it is declared. -/
private theorem exists_result_markUnavailable {w : Workbench} {id : RecordId} {declared : Value}
    (h : (w.records.get id).get .declared = .ok declared) :
    ∃ r, SameButAvailable w.records r ∧ (HasAvailable w.records id → HasAvailable r id) ∧
      (markUnavailable id).result w = (.ok (), { w with records := r }) := by
  -- a variable that is declared is left alone
  cases hd : declared.truth with
  | true =>
    refine ⟨w.records, ⟨fun _ => rfl, fun _ _ _ => rfl⟩, fun has => has, ?_⟩
    simp [markUnavailable, valueOf, Action.result_bind, h, hd]
  | false =>
    have hsize := lt_size_of_get h
    refine ⟨_, sameButAvailable_assign hsize (.bool false), fun _ => ⟨.bool false, ?_⟩, ?_⟩
    · rw [get_assign hsize, if_pos rfl, Record.get_set, if_pos rfl]
    · simp [markUnavailable, valueOf, Action.result_bind, h, hd, Action.amend]

/-- What a call costs that is written: an answer if its method throws. -/
def callCost (w : Workbench) (m : RecordId) : Nat :=
  match (w.records.get m).get .throws with
  | .ok throws => if throws.truth then 1 else 0
  | .error _ => 0

/-- What a call has left of the source when it fails or is written.  Its variable can be asked
    for what it could be asked before. -/
def CallSpends (w : Workbench) (m target : RecordId) : Except Failure CallSite × Workbench → Prop
  | (.ok _, v) => w.source.Answers (callCost w m) v.source ∧
      (HasAvailable w.records target → HasAvailable v.records target)
  | (.error _, v) => v.source = w.source

/-- Nothing goes wrong with a call after its number was drawn. -/
private theorem exists_result_of_throws {w : Workbench} {m target : RecordId} {args : List RecordId}
    {statement : String} {throws : Value} (h : w.settings.check = .ok ())
    (hstatement : assignment (w.records.get m) (w.records.get target)
      (args.map w.records.nameOf) = .ok statement)
    (hthrows : (w.records.get m).get .throws = .ok throws) (htruth : throws.truth = true)
    (hfault : w.source.fault? = none) :
    ∃ site v, (methodCall m target args).result w = (.ok site, v) ∧
      v.source = w.source.random.2 ∧
      (HasAvailable w.records target → HasAvailable v.records target) := by
  obtain ⟨⟨callee, hcallee⟩, ⟨name, hname⟩, declared, hdeclared⟩ := of_assignment_eq_ok hstatement
  obtain ⟨less, hless⟩ := exists_holds_less h w.source.random.1
  unfold methodCall
  simp only [Action.result_bind, Action.result_look, valueOf, hstatement, hthrows, orMisuse_ok,
    htruth, Bool.not_true, Bool.false_eq_true, if_false, Action.result_draw,
    Draw.result_random hfault, Action.orMisuse, hless]
  cases less with
  | true =>
    -- the method is looked at again after the variable was marked
    obtain ⟨r, hsame, hhas, hmark⟩ :=
      exists_result_markUnavailable (w := { w with source := w.source.random.2 }) hdeclared
    simp only [if_true, Action.result_bind, hmark, Action.result_look, hsame.calleeText m, hcallee]
    exact ⟨_, _, rfl, rfl, hhas⟩
  | false =>
    simp only [Bool.false_eq_true, if_false, Action.result_bind, Action.result_look, hcallee,
      show written (w.records.nameOf target) = .ok name from hname]
    exact ⟨_, _, rfl, rfl, fun has => has⟩

/-- A call costs nothing if it fails, and if it is written what it should. -/
theorem callSpends_methodCall {w : Workbench} (m target : RecordId) (args : List RecordId)
    (h : w.settings.check = .ok ()) :
    CallSpends w m target ((methodCall m target args).result w) := by
  -- the call is written before anything is drawn
  cases hstatement : assignment (w.records.get m) (w.records.get target)
      (args.map w.records.nameOf) with
  | error f =>
    simp only [methodCall, Action.result_bind, Action.result_look, hstatement]
    rfl
  | ok statement =>
    cases hthrows : (w.records.get m).get .throws with
    | error f =>
      simp only [methodCall, Action.result_bind, Action.result_look, valueOf, hstatement, hthrows]
      rfl
    | ok throws =>
      have hcost : callCost w m = if throws.truth then 1 else 0 := by rw [callCost, hthrows]
      cases htruth : throws.truth with
      | false =>
        simp only [methodCall, Action.result_bind, Action.result_look, valueOf, hstatement, hthrows,
          orMisuse_ok, htruth, Bool.not_false, if_true, Action.result_pure, CallSpends, hcost]
        exact ⟨.start, fun has => has⟩
      | true =>
        -- a source that cannot answer is left as it was
        cases hfault : w.source.fault? with
        | some f =>
          simp only [methodCall, Action.result_bind, Action.result_look, valueOf, hstatement,
            hthrows, orMisuse_ok, htruth, Bool.not_true, Bool.false_eq_true, if_false,
            Action.result_draw, Draw.random, Draw.result_ask_of_fault _ hfault]
          rfl
        | none =>
          obtain ⟨site, v, hrun, hsource, hhas⟩ :=
            exists_result_of_throws h hstatement hthrows htruth hfault
          rw [hrun]
          simp only [CallSpends, hcost, htruth, if_true, hsource]
          exact ⟨.float .start hfault, hhas⟩

end Session

end JavaFragments
