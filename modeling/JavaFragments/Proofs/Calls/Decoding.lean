import JavaFragments.Proofs.Calls.CallText
import JavaFragments.Proofs.Calls.Run
import JavaFragments.Proofs.Effects.Ensures

/-! # Calls that their texts tell

A call is about a method and variables with words for their names, whatever else they are.
What is written for it has the text of these words, wrapped if the method throws and the
number that is drawn is less than the weight.  So two calls with the same text, of whatever
sessions, are about the same:

* `Call.HasWords`         the words of a call
* `Call.IsWrapped`        whether it is wrapped
* `text_of_methodCall`    the text of what is written
* `words_eq_of_text_eq`   what the same text tells of two calls -/

namespace JavaFragments.Session

open Fragment JavaFragments.Random

/-! ## What a call is about -/

/-- The type that a variable is declared with by a call; none if it is declared already, and then
    it may have any type. -/
def Declares (d : Record) : Option Kind → Prop
  | none => ∃ v, d.get .declared = .ok v ∧ v.truth = true
  | some k => (∃ v, d.get .declared = .ok v ∧ v.truth = false) ∧ d.get .type = .ok (.kind k)

/-- What the records of a call say about it. -/
structure Call.HasWords (c : Call) (r : Records) (n : CallWords) : Prop where
  declares : Declares (r.get c.target) n.declares?
  target : r.nameOf c.target = .str n.target
  owner : (r.get c.method).get .owner = .ok (.str n.owner)
  method : r.nameOf c.method = .str n.method
  args : c.args.map r.nameOf = n.args.map .str

/-- A call is wrapped: its method throws, and the next number of the source is less than the
    weight. -/
def Call.IsWrapped (c : Call) (w : Workbench) : Prop :=
  (∃ v, (w.records.get c.method).get .throws = .ok v ∧ v.truth = true) ∧
    Value.holds .less (.float w.source.random.1) (w.settings.get .tryCatchWeight) = .ok true

variable {c : Call} {r : Records} {n : CallWords}

/-- A call writes a type only where it declares its variable. -/
private theorem typePrefix_of_declares {d : Record} (h : Declares d n.declares?) :
    typePrefix d = .ok n.typeText := by
  unfold CallWords.typeText
  cases htype : n.declares? with
  | none =>
    rw [htype] at h
    obtain ⟨v, hv, htruth⟩ := h
    simp [typePrefix, hv, htruth, bind, Except.bind]
  | some k =>
    rw [htype] at h
    obtain ⟨⟨v, hv, htruth⟩, hk⟩ := h
    simp [typePrefix, hv, htruth, hk, javaType, kindOf, bind, Except.bind]

/-- The assignment of a call is that of its words. -/
private theorem Call.HasWords.assignment_eq (h : c.HasWords r n) :
    assignment (r.get c.method) (r.get c.target) (c.args.map r.nameOf) = .ok n.statement := by
  have hmethod : (r.get c.method).name = .str n.method := h.method
  have htarget : (r.get c.target).name = .str n.target := h.target
  simp only [assignment, callText, calleeText, h.owner, hmethod, h.args, argumentText_str,
    typePrefix_of_declares h.declares, htarget, written_str, orMisuse_ok, bind, Except.bind]
  simp [CallWords.statement, toString, String.append_assoc]

/-! ## What is written -/

section Written

variable {w v : Workbench} {site : CallSite} {throws : Value}

/-- A call of a method that does not throw is bare. -/
private theorem site_of_not_throws (h : c.HasWords w.records n)
    (hthrows : (w.records.get c.method).get .throws = .ok throws) (htruth : throws.truth = false)
    (hrun : (methodCall c.method c.target c.args).result w = (.ok site, v)) :
    site = ⟨n.statement, false⟩ := by
  simp only [methodCall, Action.result_bind, Action.result_look, valueOf, h.assignment_eq, hthrows,
    orMisuse_ok, htruth, Bool.not_false, if_true, Action.result_pure] at hrun
  exact (Except.ok.inj (congrArg Prod.fst hrun)).symm

/-- A call of a method that throws is wrapped if the number that is drawn is less than the
    weight. -/
private theorem site_of_throws (h : c.HasWords w.records n)
    (hthrows : (w.records.get c.method).get .throws = .ok throws) (htruth : throws.truth = true)
    (hrun : (methodCall c.method c.target c.args).result w = (.ok site, v)) :
    ∃ less, Value.holds .less (.float w.source.random.1) (w.settings.get .tryCatchWeight) =
        .ok less ∧
      site = if less then ⟨wrapped n.statement, false⟩ else ⟨n.statement, true⟩ := by
  simp only [methodCall, Action.result_bind, Action.result_look, valueOf, h.assignment_eq, hthrows,
    orMisuse_ok, htruth, Bool.not_true, Bool.false_eq_true, if_false, Action.result_draw,
    Action.orMisuse] at hrun
  cases hfault : w.source.fault? with
  | some m =>
    rw [Draw.random, Draw.result_ask_of_fault _ hfault] at hrun
    cases hrun
  | none =>
    rw [Draw.result_random hfault] at hrun
    cases hless : Value.holds .less (.float w.source.random.1)
      (w.settings.get .tryCatchWeight) with
    | error m =>
      simp only [hless] at hrun
      cases hrun
    | ok less =>
      simp only [hless, orMisuse_ok] at hrun
      refine ⟨less, rfl, ?_⟩
      -- whatever is marked and noted before, the call comes last
      cases less with
      | true =>
        exact Ensures.last (P := fun _ => True)
          (Q := fun site _ => site = ⟨wrapped n.statement, false⟩)
          (fun _ => .last fun _ => .last fun _ => .pure fun _ _ => rfl) _ _ _ trivial hrun
      | false =>
        exact Ensures.last (P := fun _ => True)
          (Q := fun site _ => site = ⟨n.statement, true⟩)
          (fun _ => .last fun _ => .last fun _ => .pure fun _ _ => rfl) _ _ _ trivial hrun

/-- What is written for a call is the text of its words. -/
theorem text_of_methodCall (h : c.HasWords w.records n)
    (hrun : (methodCall c.method c.target c.args).result w = (.ok site, v)) :
    ∃ isWrapped, (isWrapped = true ↔ c.IsWrapped w) ∧ site.text = n.text isWrapped := by
  -- a method that cannot say whether it throws has no text
  cases hthrows : (w.records.get c.method).get .throws with
  | error m =>
    simp only [methodCall, Action.result_bind, Action.result_look, valueOf, h.assignment_eq,
      hthrows] at hrun
    cases hrun
  | ok throws =>
    cases htruth : throws.truth with
    | false =>
      have hbare : ¬ c.IsWrapped w := by simp [Call.IsWrapped, hthrows, htruth]
      refine ⟨false, iff_of_false Bool.false_ne_true hbare, ?_⟩
      rw [site_of_not_throws h hthrows htruth hrun]
      rfl
    | true =>
      obtain ⟨less, hless, rfl⟩ := site_of_throws h hthrows htruth hrun
      have hiff : less = true ↔ c.IsWrapped w := by simp [Call.IsWrapped, hthrows, htruth, hless]
      exact ⟨less, hiff, by cases less <;> rfl⟩

end Written

/-! ## The same text -/

/-- Calls with the same text are all wrapped or all bare, and are about the same words: the type
    that is declared, if one is, the names of the target, the class and the method, and those of
    the arguments in their order.  The calls may be of different sessions. -/
theorem words_eq_of_text_eq {w₁ w₂ v₁ v₂ : Workbench} {c₁ c₂ : Call} {n₁ n₂ : CallWords}
    {site₁ site₂ : CallSite} (h₁ : c₁.HasWords w₁.records n₁) (h₂ : c₂.HasWords w₂.records n₂)
    (hwords₁ : n₁.AreWords) (hwords₂ : n₂.AreWords)
    (hrun₁ : (methodCall c₁.method c₁.target c₁.args).result w₁ = (.ok site₁, v₁))
    (hrun₂ : (methodCall c₂.method c₂.target c₂.args).result w₂ = (.ok site₂, v₂))
    (htext : site₁.text = site₂.text) : (c₁.IsWrapped w₁ ↔ c₂.IsWrapped w₂) ∧ n₁ = n₂ := by
  -- each text tells its words and whether it is wrapped
  obtain ⟨b₁, hwrapped₁, htext₁⟩ := text_of_methodCall h₁ hrun₁
  obtain ⟨b₂, hwrapped₂, htext₂⟩ := text_of_methodCall h₂ hrun₂
  obtain ⟨rfl, rfl⟩ :=
    CallWords.text_inj hwords₁ hwords₂ (htext₁.symm.trans (htext.trans htext₂))
  exact ⟨hwrapped₁.symm.trans hwrapped₂, rfl⟩

/-- Records like the mixed ones in another order, with the variable `a` first.  The source answers
    one half, and the weight is three quarters. -/
def reorderedBench : Workbench where
  session := {}
  settings := (default : Settings).set .tryCatchWeight (.float (.ofRatio 3 4))
  source := .ofScript [2 ^ 52]
  records :=
    { all := #[.ofVar (.str "a") (.kind .int) (.bool false) (.bool true),
        .ofMethod (.str "risky") (.kind .int) (.str "") .empty (.str "Class_0") (.bool true),
        .ofVar (.str "b") (.kind .int) (.bool false) (.bool true)] }

/-- Two sessions that both wrap `int a = Class_0.risky(b);`. -/
theorem words_eq_of_text_eq_reordered :
    ∃ site₁ v₁ site₂ v₂, (methodCall ⟨0⟩ ⟨2⟩ [⟨3⟩]).result mixedBench = (.ok site₁, v₁) ∧
      (methodCall ⟨1⟩ ⟨0⟩ [⟨2⟩]).result reorderedBench = (.ok site₂, v₂) ∧
      site₁.text = site₂.text ∧
      (Call.IsWrapped ⟨⟨0⟩, ⟨2⟩, [⟨3⟩]⟩ mixedBench ↔
        Call.IsWrapped ⟨⟨1⟩, ⟨0⟩, [⟨2⟩]⟩ reorderedBench) := by
  let c₁ : Call := ⟨⟨0⟩, ⟨2⟩, [⟨3⟩]⟩
  let c₂ : Call := ⟨⟨1⟩, ⟨0⟩, [⟨2⟩]⟩
  let n : CallWords := ⟨some .int, "a", "Class_0", "risky", ["b"]⟩
  let p : CallParts := ⟨"Class_0", "risky", true, "a", .int, false, ["b"]⟩
  have hwords : n.AreWords := ⟨by decide, by decide, by decide, by decide⟩
  have h₁ : c₁.HasWords mixedBench.records n :=
    ⟨⟨⟨_, rfl, rfl⟩, rfl⟩, rfl, rfl, rfl, rfl⟩
  have h₂ : c₂.HasWords reorderedBench.records n :=
    ⟨⟨⟨_, rfl, rfl⟩, rfl⟩, rfl, rfl, rfl, rfl⟩
  have hparts₁ : c₁.HasParts mixedBench.records p := ⟨rfl, rfl, rfl, rfl, rfl, rfl, rfl⟩
  have hparts₂ : c₂.HasParts reorderedBench.records p := ⟨rfl, rfl, rfl, rfl, rfl, rfl, rfl⟩
  have hrun₁ := result_methodCall hparts₁ (x := .ofRatio 1 4) rfl rfl
  have hrun₂ := result_methodCall hparts₂ (x := .ofRatio 3 4) rfl rfl
  have htext : ((CallEvent.of c₁ p mixedBench.source).site (.ofRatio 1 4)).text =
      ((CallEvent.of c₂ p reorderedBench.source).site (.ofRatio 3 4)).text := by decide +kernel
  refine ⟨_, _, _, _, hrun₁, hrun₂, htext, ?_⟩
  exact (words_eq_of_text_eq h₁ h₂ hwords hwords hrun₁ hrun₂ htext).1

end JavaFragments.Session
