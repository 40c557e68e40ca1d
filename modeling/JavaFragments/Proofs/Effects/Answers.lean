import JavaFragments.Proofs.Effects.Refusal

/-! # What draws cost

`Source.Answers` counts the answers that a source gives, whatever it is asked.  A draw
`Spends` answers by what comes of it, and costs nothing if it fails, unless a number does not
do that was given for it or drawn:

* `Source.Answers.draws`, `Source.Answers.script`   what the answers leave of a source
* `Spends.bind`           a draw after another
* `spends_drawLiteral`    a literal costs what can be told from its text
* `spends_defaultReturn`, `spends_variableDeclaration`   and so does what has one in it -/

namespace JavaFragments

open Number

namespace Random

/-- What a source is after a number of answers. -/
inductive Source.Answers (s : Source) : Nat → Source → Prop
  | start : s.Answers 0 s
  | number {n : Nat} {t : Source} (bound : Nat) :
      s.Answers n t → t.fault? = none → s.Answers (n + 1) (t.below bound).2
  | float {n : Nat} {t : Source} :
      s.Answers n t → t.fault? = none → s.Answers (n + 1) t.random.2

namespace Source.Answers

variable {s t u : Source} {m n : Nat}

/-- The number of draws grows by the number of answers. -/
theorem draws (h : s.Answers n t) : t.draws = s.draws + n := by
  -- on the answers
  induction h with
  | start => rfl
  | number bound _ _ ih => rw [draws_below, ih, Nat.add_assoc]
  | float _ _ ih => rw [draws_random, ih, Nat.add_assoc]

/-- Answers do not change what a source can do. -/
theorem fault? (h : s.Answers n t) : t.fault? = s.fault? := by
  induction h with
  | start => rfl
  | number bound _ _ ih => rw [fault?_below, ih]
  | float _ _ ih => rw [fault?_random, ih]

/-- More answers may follow. -/
theorem trans (h : s.Answers m t) (h' : t.Answers n u) : s.Answers (m + n) u := by
  induction h' with
  | start => exact h
  | number bound _ hfault ih => exact ih.number bound hfault
  | float _ hfault ih => exact ih.float hfault

/-- A source that cannot answer stays as it is. -/
private theorem eq_of_fault (h : s.Answers n t) (hs : s.fault? ≠ none) : t = s := by
  cases h with
  | start => rfl
  | number bound h hfault => exact absurd (h.fault?.symm.trans hfault) hs
  | float h hfault => exact absurd (h.fault?.symm.trans hfault) hs

/-- A script is read round and round. -/
theorem script {numbers : List Nat} {p : Nat} (h : s.Answers n t)
    (hs : s.generator = .script numbers p) (hp : p < numbers.length) :
    t.generator = .script numbers ((p + n) % numbers.length) := by
  have hadvance (k : Nat) :
      Generator.advance numbers ((p + k) % numbers.length) = (p + (k + 1)) % numbers.length := by
    rw [Generator.advance, Nat.mod_add_mod, Nat.add_assoc]
  -- on the answers, each of which moves the script by one place
  induction h with
  | start => rw [hs, Nat.add_zero, Nat.mod_eq_of_lt hp]
  | number bound _ _ ih =>
    simp only [Source.below, ih, Generator.below, hadvance]
  | float _ _ ih =>
    simp only [Source.random, ih, Generator.below53, hadvance]

end Source.Answers

end Random

/-- A value that should be a number of a certain sort is none. -/
def Misuse.isBadNumber : Misuse → Bool
  | notANumeral _ | notWhole _ | undefinedBound | infiniteBound => true
  | _ => false

namespace Fragment

open JavaFragments.Random

/-- A number does not do: there is none between two bounds, it is too large or too long, or what
    should be one is none. -/
def Failure.isBadNumber : Failure → Bool
  | emptyRange _ _ _ | emptyRangeBelow | tooLong _ | tooLarge => true
  | misuse m => m.isBadNumber
  | _ => false

/-- What a draw costs, by what comes of it.  It may fail where a number does not do, and apart
    from that only before it has drawn anything, and by what it is asked only if `refuses`. -/
structure Spends {α : Type} (refuses : Prop) (d : Draw α) (cost : α → Nat → Prop) : Prop where
  ok : ∀ {s a t}, d.result s = (.ok a, t) → ∃ n, cost a n ∧ s.Answers n t
  error : ∀ {s f t}, d.result s = (.error f, t) →
    f.isBadNumber ∨ t = s ∧ (s.fault? = none → refuses)

namespace Spends

variable {α β : Type} {refuses : Prop} {d : Draw α} {cost : α → Nat → Prop}

/-- A value costs nothing. -/
theorem pure {a : α} (h : cost a 0) : Spends refuses (Pure.pure a : Draw α) cost where
  ok hrun := by
    obtain ⟨ha, rfl⟩ := Prod.mk.inj hrun
    cases ha
    exact ⟨0, h, .start⟩
  error hrun := nomatch congrArg Prod.fst hrun

/-- What is told without a look at the source costs nothing. -/
theorem lift {x : Except Failure α} (hok : ∀ a, x = .ok a → cost a 0)
    (herror : ∀ f, x = .error f → f.isBadNumber ∨ refuses) :
    Spends refuses (liftM x : Draw α) cost where
  ok hrun := by
    obtain ⟨ha, rfl⟩ := Prod.mk.inj (show (x, _) = _ from hrun)
    exact ⟨0, hok _ ha, .start⟩
  error hrun := by
    obtain ⟨hf, rfl⟩ := Prod.mk.inj (show (x, _) = _ from hrun)
    exact (herror _ hf).imp_right fun h => ⟨rfl, fun _ => h⟩

/-- A number that does not do may be found at any time. -/
private theorem fail {f : Failure} (h : f.isBadNumber) :
    Spends refuses (throw f : Draw α) cost where
  ok hrun := nomatch congrArg Prod.fst hrun
  error hrun := by
    obtain ⟨hf, rfl⟩ := Prod.mk.inj hrun
    cases hf
    exact .inl h

/-- The cost may be told in a weaker way. -/
theorem mono {cost' : α → Nat → Prop} (h : Spends refuses d cost)
    (hcost : ∀ a n, cost a n → cost' a n) : Spends refuses d cost' where
  ok hrun := by
    obtain ⟨n, hn, hanswers⟩ := h.ok hrun
    exact ⟨n, hcost _ n hn, hanswers⟩
  error := h.error

/-- More may be refused. -/
theorem weaken {refuses' : Prop} (h : Spends refuses d cost) (himp : refuses → refuses') :
    Spends refuses' d cost where
  ok := h.ok
  error hrun := (h.error hrun).imp_right fun ⟨ht, hrefuses⟩ => ⟨ht, fun hs => himp (hrefuses hs)⟩

/-- A draw after another costs what both cost.  The second must not refuse anything, as the first
    one may have drawn something. -/
theorem bind {k : α → Draw β} {cost' : β → Nat → Prop} (h : Spends refuses d cost)
    (hk : ∀ a n, cost a n → Spends False (k a) fun b m => cost' b (n + m)) :
    Spends refuses (d >>= k) cost' where
  ok {s b u} := by
    rw [Draw.result_bind]
    cases hd : d.result s with
    | mk r t =>
      cases r with
      | error f => exact fun hrun => nomatch congrArg Prod.fst hrun
      | ok a =>
        intro hrun
        obtain ⟨n, hn, hfirst⟩ := h.ok hd
        obtain ⟨m, hm, hsecond⟩ := (hk a n hn).ok hrun
        exact ⟨n + m, hm, hfirst.trans hsecond⟩
  error {s f u} := by
    rw [Draw.result_bind]
    cases hd : d.result s with
    | mk r t =>
      cases r with
      | error f' =>
        intro hrun
        cases hrun
        exact h.error hd
      | ok a =>
        intro hrun
        obtain ⟨n, hn, hfirst⟩ := h.ok hd
        refine ((hk a n hn).error hrun).imp_right fun ⟨hu, hnone⟩ => ?_
        -- a source that cannot answer has not answered before either
        have hs : s.fault? ≠ none := fun hs => hnone (hfirst.fault?.trans hs)
        exact ⟨hu.trans (hfirst.eq_of_fault hs), fun h => absurd h hs⟩

/-- What is told first decides what is drawn. -/
theorem lift_bind {x : Except Failure α} {k : α → Draw β} {cost' : β → Nat → Prop}
    (hok : ∀ a, x = .ok a → Spends refuses (k a) cost')
    (herror : ∀ f, x = .error f → f.isBadNumber ∨ refuses) :
    Spends refuses (liftM x >>= k) cost' := by
  -- nothing is drawn where the first part is a failure
  cases x with
  | ok a => exact hok a rfl
  | error f =>
    constructor
    · intro s a t hrun
      exact nomatch congrArg Prod.fst hrun
    · intro s f' t hrun
      obtain ⟨hf, rfl⟩ := Prod.mk.inj hrun
      cases hf
      exact (herror f rfl).imp_right fun h => ⟨rfl, fun _ => h⟩

end Spends

/-! ## Numbers that do not do -/

/-- A numeral fails only where the number is too long. -/
private theorem isBadNumber_of_numeral {n : Int} {f : Failure} (h : numeral n = .error f) :
    f.isBadNumber := by
  unfold numeral at h
  split at h
  · cases h
  · cases h
    rfl

/-- So does a value that is written. -/
private theorem isBadNumber_of_written {v : Value} {f : Failure} (h : written v = .error f) :
    f.isBadNumber := by
  unfold written at h
  split at h
  · cases h
  · cases h
    rfl

/-- A range without integers is refused even if its bounds are too long to be shown. -/
private theorem isBadNumber_noIntegers {low high : Int} {f : Failure}
    (h : noIntegers low high = f) :
    f.isBadNumber := by
  subst h
  unfold noIntegers
  split
  · rfl
  · exact isBadNumber_of_numeral ‹_›
  · exact isBadNumber_of_numeral ‹_›
  · exact isBadNumber_of_numeral ‹_›

/-! ## What draws cost -/

/-- What is asked of a source is one answer. -/
private theorem spends_ask {α : Type} {answer : Source → α × Source}
    (h : ∀ s : Source, s.fault? = none → s.Answers 1 (answer s).2) :
    Spends False (Draw.ask answer) fun _ n => n = 1 where
  ok {s a t} hrun := by
    -- a source that cannot answer refuses and stays
    cases hs : s.fault? with
    | none =>
      rw [Draw.result_ask _ hs] at hrun
      cases hrun
      exact ⟨1, rfl, h s hs⟩
    | some m =>
      rw [Draw.result_ask_of_fault _ hs] at hrun
      exact nomatch congrArg Prod.fst hrun
  error {s f t} hrun := by
    cases hs : s.fault? with
    | none =>
      rw [Draw.result_ask _ hs] at hrun
      exact nomatch congrArg Prod.fst hrun
    | some m =>
      rw [Draw.result_ask_of_fault _ hs] at hrun
      cases hrun
      exact .inr ⟨rfl, nofun⟩

/-- A number below a bound costs one answer. -/
private theorem spends_below (bound : Nat) : Spends False (Draw.below bound) fun _ n => n = 1 :=
  spends_ask fun _ hs => .number bound .start hs

/-- So does a number from zero to one. -/
theorem spends_random : Spends False Draw.random fun _ n => n = 1 :=
  spends_ask fun _ hs => .float .start hs

/-- So does an integer of a range; an empty range costs nothing, but has no integer. -/
private theorem spends_between (low high : Int) :
    Spends False (Draw.between low high) fun _ n => n = 1 := by
  unfold Draw.between
  split
  · exact (spends_below _).bind fun i n hn => .pure hn
  · generalize hf : noIntegers low high = f
    exact .fail (isBadNumber_noIntegers hf)

/-- So does an integer below a bound. -/
private theorem spends_upTo (high : Int) : Spends False (Draw.upTo high) fun _ n => n = 1 := by
  unfold Draw.upTo
  split
  · exact spends_below _
  · exact .fail rfl

/-- A bound that is a number, if perhaps a bad one, is not refused. -/
private theorem spends_upToValue {refuses : Prop} {high : Value}
    (h : ∀ m, high.whole .low = .error m → m.isBadNumber ∨ refuses) :
    Spends refuses (Draw.upToValue high) fun _ n => n = 1 := by
  refine Spends.lift_bind (fun a _ => (spends_upTo a).weaken False.elim) fun f hf => ?_
  -- only a bound that is no whole number is refused
  cases hwhole : high.whole .low with
  | ok n =>
    rw [hwhole] at hf
    cases hf
  | error m =>
    rw [hwhole] at hf
    cases hf
    exact h m hwhole

/-- Bounds that are given as values may be refused, but then nothing was drawn. -/
private theorem spends_within (low high : Value) :
    Spends True (Draw.within low high) fun _ n => n = 1 := by
  refine Spends.lift_bind (fun a _ => ?_) fun _ _ => .inr trivial
  split
  · exact ((spends_upTo a).weaken False.elim).bind fun i n hn => .pure hn
  · refine Spends.lift_bind (fun b _ => ?_) fun _ _ => .inr trivial
    exact (spends_between a b).weaken False.elim

/-- An item of a list costs one answer. -/
private theorem spends_oneOf {α : Type} (first : α) (rest : List α) :
    Spends False (Draw.oneOf first rest) fun _ n => n = 1 :=
  (spends_below _).bind fun _ _ hn => .pure hn

/-! ## What literals cost -/

/-- Characters cost one answer each. -/
private theorem spends_drawChars (length : Nat) :
    Spends False (drawChars length) fun cs n => cs.length = n := by
  -- on the length
  induction length with
  | zero => exact .pure rfl
  | succ length ih =>
    refine (spends_oneOf _ _).bind fun c m hm => ?_
    refine ih.bind fun cs n hn => .pure ?_
    rw [List.length_cons, hn, hm]
    omega

end Fragment

/-- What a literal of a kind costs, by its text: one answer for a number, a truth value or a
    character, one for the length of a string and one for each of its characters, and two for a
    floating-point number. -/
def Kind.cost (literal : String) : Kind → Nat
  | .int | .long | .bool | .char => 1
  | .float => 2
  | .string => literal.length - 1
  | .void => 0

namespace Fragment

/-- An integer that was drawn may be too long to be written. -/
private theorem spends_drawInteger (low high : Value) :
    Spends True (drawInteger low high) fun _ n => n = 1 := by
  refine (spends_within low high).bind fun i n hn => ?_
  exact .lift (fun _ _ => hn) fun f hf => .inl (isBadNumber_of_numeral hf)

/-- The scale is looked at when the first number is drawn already. -/
private theorem spends_drawFloat {scale : Value}
    (h : ∀ m, scale.whole .low = .error m → m.isBadNumber) :
    Spends False (drawFloat scale) fun _ n => n = 2 := by
  have hupTo : Spends False (Draw.upToValue scale) fun _ n => n = 1 :=
    spends_upToValue fun m hm => .inl (h m hm)
  refine spends_random.bind fun x k hk => ?_
  refine hupTo.bind fun a n hn => ?_
  split
  · exact .pure (by omega)
  · exact .fail rfl

/-- A string costs an answer for its length and one for each of its characters. -/
private theorem spends_drawString (minLength maxLength : Value) :
    Spends True (drawString minLength maxLength) fun text n => n = text.length - 1 := by
  refine Spends.lift_bind (fun high _ => ?_) fun _ _ => .inr trivial
  refine (spends_within _ _).bind fun length k hk => ?_
  refine (spends_drawChars length.toNat).bind fun cs n hn => .pure ?_
  -- the quotes around the characters are one more than the answer for the length
  simp only [String.length_ofList, List.length_append, List.length_cons, List.length_nil]
  omega

/-- What a literal costs of the kind that a value is. -/
def valueCost (literal : String) : Value → Nat
  | .kind k => k.cost literal
  | _ => 0

/-- What comes in a text behind the beginning. -/
def behind (beginning text : String) : String := .ofList (text.toList.drop beginning.length)

/-- A text comes behind what it is put behind. -/
private theorem behind_append (beginning text : String) :
    behind beginning (beginning ++ text) = text := by
  unfold behind
  rw [String.toList_append, ← String.length_toList, List.drop_left, String.ofList_toList]

/-- What comes before the literal where a variable is declared. -/
def declarationHead (d : Record) : String :=
  match typePrefix d, written d.name with
  | .ok type, .ok name => type ++ name ++ " = "
  | _, _ => ""

/-- What the literal costs in the declaration of a variable. -/
def declarationCost (d : Record) (text : String) : Nat :=
  match d.get .type with
  | .ok type => valueCost (behind (declarationHead d) text) type
  | .error _ => 0

section

/-! The scale of floating-point numbers is a number, even if it is not the scale of any. -/

variable {s : Settings}
  (hscale : ∀ m, (s.get .floatScale).whole .low = .error m → m.isBadNumber)

include hscale

/-- A literal costs what its kind and its text say. -/
theorem spends_drawLiteral (k : Kind) :
    Spends True (drawLiteral s k) fun text n => n = k.cost text := by
  -- by the kind; a string costs an answer for its length besides
  cases k with
  | int => exact spends_drawInteger _ _
  | long => exact spends_drawInteger _ _
  | float => exact (spends_drawFloat hscale).weaken False.elim
  | bool => exact (spends_oneOf _ _).weaken False.elim
  | char =>
    have hchar : Spends False drawCharLiteral fun _ n => n = 1 :=
      (spends_oneOf _ _).bind fun c n hn => .pure hn
    exact hchar.weaken False.elim
  | string => exact spends_drawString _ _
  | void => exact .lift (fun text h => nomatch h) fun _ _ => .inr trivial

/-- A value that a literal is drawn for is a kind. -/
theorem spends_drawValue (type : Value) :
    Spends True (drawValue s type) fun text n =>
      (∃ k, type = .kind k) ∧ n = valueCost text type := by
  refine Spends.lift_bind (fun k hk => ?_) fun _ _ => .inr trivial
  obtain rfl := kindOf_eq_ok hk
  exact (spends_drawLiteral hscale k).mono fun _ _ hn => ⟨⟨k, rfl⟩, hn⟩

/-- A returned value costs what its literal costs, and nothing for `void`. -/
theorem spends_defaultReturn (type : Value) :
    Spends True (defaultReturn s type) fun text n => n = valueCost (behind "return " text) type := by
  unfold defaultReturn
  split
  · exact .pure rfl
  · refine (spends_drawValue hscale _).bind fun literal n hn => .pure ?_
    -- the literal comes behind a word
    show n + 0 = valueCost (behind "return " ("return " ++ literal)) _
    rw [behind_append]
    exact hn.2

/-- The literal of a declaration is paid for even though the type is written after it. -/
theorem spends_variableDeclaration {d : Record} {declared : Value}
    (hd : d.get .declared = .ok declared) :
    Spends True (variableDeclaration s d) fun text n => n = declarationCost d text := by
  refine Spends.lift_bind (fun type htype => ?_) fun _ _ => .inr trivial
  rw [orMisuse_eq_ok] at htype
  refine (spends_drawValue hscale type).bind fun literal n ⟨⟨k, hk⟩, hn⟩ => ?_
  refine Spends.lift_bind (fun head hhead => ?_) fun f hf => ?_
  · have htooLong : ∀ f, written d.name = .error f → f.isBadNumber ∨ False :=
      fun f hf => .inl (isBadNumber_of_written hf)
    refine Spends.lift_bind (fun name hname => .pure ?_) htooLong
    -- the literal comes behind the type and the name
    show n + 0 = declarationCost d (head ++ name ++ " = " ++ literal)
    rw [declarationCost, htype, declarationHead, hhead, hname]
    simp only [behind_append]
    exact hn
  · -- the type is a kind, since a literal was drawn for it
    obtain ⟨text, htext⟩ := exists_typePrefix (hk ▸ htype) hd
    rw [htext] at hf
    cases hf

end

/-- A random kind costs one answer. -/
theorem spends_drawKind (s : Settings) (allowVoid : Option Bool) :
    Spends False (drawKind s allowVoid) fun _ n => n = 1 :=
  spends_oneOf _ _

/-- The name of a variable costs one answer, for the number in it. -/
theorem spends_drawVarName (s : Settings) (methodName : String) :
    Spends True (drawVarName s methodName) fun _ n => n = 1 := by
  refine (spends_upToValue fun _ _ => .inr trivial).bind fun i n hn => ?_
  exact Spends.lift_bind (fun _ _ => .pure hn) fun f hf => .inl (isBadNumber_of_numeral hf)

end Fragment

end JavaFragments
