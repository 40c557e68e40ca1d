import JavaFragments.Fragment.Statement
import JavaFragments.Proofs.Replay.Overlay

/-! # Draws after other draws

A source that has given answers before gives the same answers as one that has not, and what
kind of source it is does not change:

* `follows_ask`         one answer
* `follows_drawValue`   a literal, and likewise whatever else is drawn -/

namespace JavaFragments

open Number Fragment

namespace Random

/-- Both are twisters, or both are scripts of the same numbers. -/
def Generator.SameKind : Generator → Generator → Prop
  | .script numbers _, .script numbers' _ => numbers = numbers'
  | .twister _, .twister _ => True
  | _, _ => False

/-- A generator is of its own kind. -/
theorem Generator.SameKind.refl (g : Generator) : g.SameKind g := by cases g <;> trivial

/-- Generators of the kind of a third one are of one kind. -/
theorem Generator.SameKind.trans {g h i : Generator} (hgh : g.SameKind h) (hhi : h.SameKind i) :
    g.SameKind i := by
  cases g with
  | script numbers position =>
    cases h with
    | twister t => exact hgh.elim
    | script numbers' position' =>
      cases i with
      | twister t => exact hhi.elim
      | script numbers'' position'' => exact Eq.trans hgh hhi
  | twister t =>
    cases h with
    | script numbers position => exact hgh.elim
    | twister t' =>
      cases i with
      | script numbers position => exact hhi.elim
      | twister t'' => trivial

/-- The source after it has given `n` answers more, as far as they are counted. -/
def Source.later (n : Nat) (s : Source) : Source := { s with draws := n + s.draws }

/-- Sources that have given answers before. -/
def drawsOverlay (n : Nat) : Overlay Source where
  place := Source.later n
  keeps s t := s.generator.SameKind t.generator
  refl s := .refl s.generator
  trans := .trans

/-- Whether a source can answer does not depend on the number of its draws. -/
@[simp] theorem fault?_later (n : Nat) (s : Source) : (s.later n).fault? = s.fault? := rfl

/-- A generator stays of its kind when it draws a number below another. -/
private theorem sameKind_below (n : Nat) (g : Generator) : g.SameKind (g.below n).2 := by
  cases g <;> trivial

/-- A generator stays of its kind when it draws 53 bits. -/
private theorem sameKind_below53 (g : Generator) : g.SameKind g.below53.2 := by
  cases g <;> trivial

/-! ## Starting a source -/

/-- A script is moved by the seed alone. -/
private theorem startScript_later (n : Nat) (numbers : List Nat) (s : Source) (v : Value) :
    (s.later n).startScript numbers v = (s.startScript numbers v).map (Source.later n) := by
  -- the seed says where the script goes on, the number of draws does not
  cases v with
  | null => rfl
  | bool b =>
    simp only [Source.startScript, Source.moveTo]
    split <;> rfl
  | int m =>
    simp only [Source.startScript, Source.moveTo]
    split <;> rfl
  | float x =>
    simp only [Source.startScript]
    split <;> rfl
  | str t =>
    simp only [Source.startScript]
    cases Text.checkTemplate t <;> rfl
  | list vs => rfl
  | kind k => rfl

/-- A source is started in the same way after other draws. -/
theorem started_later (n : Nat) (s : Source) (v : Value) :
    (s.later n).started v = (s.started v).map (Source.later n) := by
  obtain ⟨g, draws, astray⟩ := s
  -- a script is moved, a twister is seeded
  cases g with
  | script numbers position =>
    exact startScript_later n numbers ⟨.script numbers position, draws, astray⟩ v
  | twister t =>
    simp only [Source.later, Source.started, bind, Except.bind]
    cases Seed.ofValue? v with
    | error m => rfl
    | ok seed? => cases seed? <;> rfl

/-- A source that is started with a seed is in a state that depends on nothing but the seed,
    apart from the number of its draws. -/
theorem started_of_sameKind {s t : Source} (h : s.generator.SameKind t.generator) {v : Value}
    (hv : v ≠ .null) :
    t.started v = (s.started v).map fun s' => { s' with draws := t.draws } := by
  obtain ⟨g, draws, astray⟩ := s
  obtain ⟨g', draws', astray'⟩ := t
  cases g with
  | script numbers position =>
    cases g' with
    | twister t => exact h.elim
    | script numbers' position' =>
      obtain rfl : numbers = numbers' := h
      -- the position is set by the seed, and whether the script is astray as well
      cases v with
      | null => exact absurd rfl hv
      | bool b =>
        simp only [Source.started, Source.startScript, Source.moveTo]
        split <;> rfl
      | int m =>
        simp only [Source.started, Source.startScript, Source.moveTo]
        split <;> rfl
      | float x =>
        simp only [Source.started, Source.startScript]
        split <;> rfl
      | str t =>
        simp only [Source.started, Source.startScript]
        cases Text.checkTemplate t <;> rfl
      | list vs => rfl
      | kind k => rfl
  | twister u =>
    cases g' with
    | script numbers position => exact h.elim
    | twister u' =>
      -- the words of a twister are computed from the seed alone
      cases v with
      | null => exact absurd rfl hv
      | _ => rfl

/-- A source stays of its kind when it is started. -/
theorem sameKind_of_started {s t : Source} {v : Value} (h : s.started v = .ok t) :
    s.generator.SameKind t.generator := by
  obtain ⟨g, draws, astray⟩ := s
  cases g with
  | script numbers position =>
    have hmove : ∀ m : Int,
        Source.moveTo numbers m ⟨.script numbers position, draws, astray⟩ = .ok t →
          (Generator.script numbers position).SameKind t.generator := by
      intro m hm
      -- an empty script cannot be moved
      unfold Source.moveTo at hm
      split at hm
      · exact nomatch hm
      · exact Except.ok.inj hm ▸ rfl
    cases v with
    | null => exact Except.ok.inj h ▸ rfl
    | bool b => exact hmove _ h
    | int m => exact hmove m h
    | float x =>
      simp only [Source.started, Source.startScript] at h
      split at h
      · exact nomatch h
      · exact Except.ok.inj h ▸ rfl
    | str text =>
      simp only [Source.started, Source.startScript] at h
      split at h
      · exact Except.ok.inj h ▸ rfl
      · exact nomatch h
    | list vs => exact nomatch h
    | kind k => exact nomatch h
  | twister u =>
    simp only [Source.started, bind, Except.bind] at h
    split at h
    · exact nomatch h
    · split at h
      · exact Except.ok.inj h ▸ trivial
      · exact Except.ok.inj h ▸ trivial

end Random

open JavaFragments.Random

namespace Fragment

variable {n : Nat}

/-- A draw is the same after other draws. -/
abbrev DrawFollows {α : Type} (n : Nat) (d : Draw α) : Prop := Follows (drawsOverlay n) id d d

/-- An answer that does not look at the number of draws is the same after other draws. -/
theorem follows_ask {α : Type} {answer : Source → α × Source}
    (hlater : ∀ s, answer (s.later n) = ((answer s).1, (answer s).2.later n))
    (hkind : ∀ s : Source, s.generator.SameKind (answer s).2.generator) :
    DrawFollows n (Draw.ask answer) where
  result s := by
    show Draw.result _ (s.later n) = ((Draw.result _ s).1.map id, (Draw.result _ s).2.later n)
    -- a source that cannot answer could not answer before either
    cases hfault : s.fault? with
    | none =>
      rw [Draw.result_ask _ hfault, Draw.result_ask _ ((fault?_later n s).trans hfault), hlater]
      rfl
    | some m =>
      rw [Draw.result_ask_of_fault _ hfault,
        Draw.result_ask_of_fault _ ((fault?_later n s).trans hfault)]
      rfl
  keeps s := by
    -- an answer keeps the kind, and without an answer nothing changes
    show s.generator.SameKind (Draw.result _ s).2.generator
    cases hfault : s.fault? with
    | none =>
      rw [Draw.result_ask _ hfault]
      exact hkind s
    | some m =>
      rw [Draw.result_ask_of_fault _ hfault]
      exact .refl s.generator

/-- A number below a bound is the same, whatever was drawn before. -/
private theorem follows_below (bound : Nat) : DrawFollows n (Draw.below bound) :=
  follows_ask (fun _ => rfl) fun s => sameKind_below bound s.generator

/-- A number from zero to one is the same, whatever was drawn before. -/
theorem follows_random : DrawFollows n Draw.random :=
  follows_ask (fun _ => rfl) fun s => sameKind_below53 s.generator

/-- What fails or does not without a look at the source. -/
private theorem follows_except {α : Type} (x : Except Failure α) :
    DrawFollows n (liftM x : Draw α) :=
  Follows.lift (by cases x <;> rfl)

/-- Nothing is drawn for a value that is there. -/
private theorem follows_return {α : Type} (x : α) :
    DrawFollows n (pure x : Draw α) := Follows.pure x

/-- A draw that goes on with what another has drawn. -/
private theorem follows_then {α β : Type} {d : Draw α} {k : α → Draw β} (h : DrawFollows n d)
    (hk : ∀ x, DrawFollows n (k x)) : DrawFollows n (d >>= k) :=
  h.bind hk

/-- An integer of a range is the same after other draws, and so is the refusal of a range without
    integers. -/
private theorem follows_between (low high : Int) : DrawFollows n (Draw.between low high) := by
  unfold Draw.between
  -- the range is checked before anything is drawn
  split
  · exact follows_then (follows_below _) fun i => follows_return (low + i)
  · exact Follows.throw _

/-- So is an integer below a bound. -/
private theorem follows_upTo (high : Int) : DrawFollows n (Draw.upTo high) := by
  unfold Draw.upTo
  split
  · exact follows_below _
  · exact Follows.throw _

/-- A bound that is given as a value is looked at before anything is drawn. -/
private theorem follows_upToValue (high : Value) : DrawFollows n (Draw.upToValue high) :=
  follows_then (follows_except _) follows_upTo

/-- So are both bounds of a range. -/
private theorem follows_within (low high : Value) : DrawFollows n (Draw.within low high) := by
  refine follows_then (follows_except _) fun a => ?_
  -- the upper bound may be left out
  split
  · exact follows_then (follows_upTo a) fun i => follows_return (i : Int)
  · exact follows_then (follows_except _) fun b => follows_between a b

/-- An item of a list is the same after other draws. -/
private theorem follows_oneOf {α : Type} (first : α) (rest : List α) :
    DrawFollows n (Draw.oneOf first rest) := by
  refine follows_then (follows_below _) fun i => ?_
  exact follows_return ((first :: rest).getD i first)

/-! ## Literals -/

/-- A character is an item of a list. -/
private theorem follows_drawChar : DrawFollows n drawChar := follows_oneOf _ _

/-- Characters are drawn one after the other. -/
private theorem follows_drawChars (length : Nat) : DrawFollows n (drawChars length) := by
  -- on the length
  induction length with
  | zero => exact follows_return []
  | succ length ih =>
    refine follows_then follows_drawChar fun c => ?_
    exact follows_then ih fun cs => follows_return (c :: cs)

/-- An integer is written without a look at the source. -/
private theorem follows_drawInteger (low high : Value) : DrawFollows n (drawInteger low high) :=
  follows_then (follows_within low high) fun m => follows_except (numeral m)

/-- Both factors of a number are the same after other draws. -/
private theorem follows_drawFloat (scale : Value) : DrawFollows n (drawFloat scale) := by
  refine follows_then follows_random fun x => ?_
  refine follows_then (follows_upToValue scale) fun m => ?_
  split
  · exact follows_return _
  · exact Follows.throw _

/-- The length of a string is the same after other draws, and then its characters are. -/
private theorem follows_drawString (minLength maxLength : Value) :
    DrawFollows n (drawString minLength maxLength) := by
  refine follows_then (follows_except _) fun high => ?_
  refine follows_then (follows_within minLength high) fun length => ?_
  exact follows_then (follows_drawChars length.toNat) fun chars => follows_return _

/-- A literal of each kind is the same after other draws, and `void` is refused as before. -/
private theorem follows_drawLiteral (s : Settings) (k : Kind) :
    DrawFollows n (drawLiteral s k) := by
  -- each kind is drawn in its own way
  cases k with
  | int => exact follows_drawInteger _ _
  | long => exact follows_drawInteger _ _
  | float => exact follows_drawFloat _
  | bool => exact follows_oneOf _ _
  | char => exact follows_then follows_drawChar fun c => follows_return _
  | string => exact follows_drawString _ _
  | void => exact follows_except _

/-- A literal is the same after other draws. -/
theorem follows_drawValue (s : Settings) (type : Value) : DrawFollows n (drawValue s type) :=
  follows_then (follows_except _) fun k => follows_drawLiteral s k

/-- Whether `void` is a candidate is known before anything is drawn. -/
theorem follows_drawKind (s : Settings) (allowVoid : Option Bool) :
    DrawFollows n (drawKind s allowVoid) :=
  follows_oneOf _ _

/-- The number in the name of a variable is the same after other draws. -/
theorem follows_drawVarName (s : Settings) (methodName : String) :
    DrawFollows n (drawVarName s methodName) := by
  refine follows_then (follows_upToValue _) fun m => ?_
  exact follows_then (follows_except (numeral m)) fun suffix => follows_return _

/-- Only the value of a declaration is drawn. -/
theorem follows_variableDeclaration (s : Settings) (d : Record) :
    DrawFollows n (variableDeclaration s d) := by
  refine follows_then (follows_except _) fun type => ?_
  refine follows_then (follows_drawValue s type) fun value => ?_
  refine follows_then (follows_except (typePrefix d)) fun before => ?_
  exact follows_then (follows_except (written d.name)) fun name => follows_return _

/-- Nothing is drawn for the return of `void`. -/
theorem follows_defaultReturn (s : Settings) (type : Value) :
    DrawFollows n (defaultReturn s type) := by
  unfold defaultReturn
  -- `void` or any other kind
  split
  · exact follows_return _
  · exact follows_then (follows_drawValue s _) fun value => follows_return _

end Fragment

end JavaFragments
