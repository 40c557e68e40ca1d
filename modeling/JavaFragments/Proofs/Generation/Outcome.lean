import JavaFragments.Proofs.Generation.Success
import JavaFragments.Proofs.Number.WrittenInteger
import Mathlib.Data.List.GetD

/-! # All that may be drawn

`Gives` says of what comes of a draw which property it has.  A draw is `Exactly` of a property
if everything that has the property may come of it as well, which takes the right answers of a
source.  These are put together as the draws are:

* `Exactly.bind`         a draw after another
* `exactly_between`      an integer in a range
* `exactly_oneOf`        an item of a list
* `exists_answersWith`   a source for all answers
* `Exactly.produces`     so what may come of a draw is what has the property
* `exactly_drawInteger`, `exactly_drawCharLiteral`, `exactly_drawString`, `exactly_drawVarName`
  what may come of the draws of literals and names -/

namespace JavaFragments.Fragment

open Number JavaFragments.Random

variable {α β : Type}

/-- Something may come of a draw, if a source that can answer answers suitably. -/
def Outcome (d : Draw α) (a : α) : Prop := ∃ s : Source, s.fault? = none ∧ (d.result s).1 = .ok a

/-- Something comes of a draw from every source that can answer, and what may come of it is what
    has a property. -/
structure Produces (d : Draw α) (Q : α → Prop) : Prop where
  succeeds : Succeeds d
  outcome_iff : ∀ a, Outcome d a ↔ Q a

/-- A source that can answer, and that answers with some numbers as long as each of them is below
    the bound it is asked with. -/
def AnswersWith : List Nat → Source → Prop
  | [], s => s.fault? = none
  | n :: rest, s => s.fault? = none ∧
      ∀ bound, n < bound → (s.below bound).1 = n ∧ AnswersWith rest (s.below bound).2

/-- Something comes of a draw with some answers, which are used up. -/
def Takes (d : Draw α) (answers : List Nat) (a : α) : Prop :=
  ∀ (s : Source) (rest : List Nat), AnswersWith (answers ++ rest) s →
    ∃ t, d.result s = (.ok a, t) ∧ AnswersWith rest t

/-- What comes of a draw has a property, and all that has the property may come of it. -/
structure Exactly (d : Draw α) (Q : α → Prop) : Prop where
  gives : Gives d Q
  takes : ∀ a, Q a → ∃ answers, Takes d answers a

/-! ## Answers -/

/-- A source with answers can answer, even if it has none left. -/
theorem AnswersWith.fault? {answers : List Nat} {s : Source} (h : AnswersWith answers s) :
    s.fault? = none := by
  cases answers with
  | nil => exact h
  | cons n rest => exact h.1

/-- A script answers with the numbers from its position on. -/
private theorem answersWith_script {numbers : List Nat} (hne : numbers ≠ []) (answers : List Nat)
    {position : Nat} (h : answers = [] ∨ numbers.drop position = answers) (draws : Nat) :
    AnswersWith answers ⟨.script numbers position, draws, none⟩ := by
  have hfault : ∀ position draws, (⟨.script numbers position, draws, none⟩ : Source).fault? = none := by
    intro position draws
    cases numbers with
    | nil => exact absurd rfl hne
    | cons => rfl
  -- on the answers; after the last number the script starts again, and is not asked any more
  induction answers generalizing position draws with
  | nil => exact hfault position draws
  | cons n rest ih =>
    have hdrop := h.resolve_left (List.cons_ne_nil _ _)
    have hlt : position < numbers.length := by
      apply Nat.lt_of_not_le
      intro hle
      rw [List.drop_eq_nil_of_le hle] at hdrop
      cases hdrop
    rw [List.drop_eq_getElem_cons hlt] at hdrop
    obtain ⟨rfl, hrest⟩ := List.cons.inj hdrop
    refine ⟨hfault position draws, fun bound hbound => ⟨?_, ?_⟩⟩
    · simp only [Source.below, Generator.below, Generator.scripted,
        List.getD_eq_getElem _ _ hlt, Nat.mod_eq_of_lt hbound]
    · refine ih ?_ _
      by_cases hlast : position + 1 < numbers.length
      · right
        rwa [Generator.advance, Nat.mod_eq_of_lt hlast]
      · left
        rw [← hrest, List.drop_eq_nil_of_le (Nat.not_lt.1 hlast)]

/-- There is a source for all answers. -/
theorem exists_answersWith (answers : List Nat) : ∃ s, AnswersWith answers s := by
  cases answers with
  | nil => exact ⟨.ofScript [0], rfl⟩
  | cons n rest =>
    have hscript : AnswersWith (n :: rest) (.ofScript (n :: rest)) :=
      answersWith_script (List.cons_ne_nil n rest) (n :: rest) (.inr List.drop_zero) 0
    exact ⟨.ofScript (n :: rest), hscript⟩

/-! ## Draws -/

namespace Exactly

variable {d : Draw α} {Q R : α → Prop}

/-- What may come of a draw is what has the property. -/
theorem produces (h : Exactly d Q) : Produces d Q where
  succeeds := h.gives.succeeds
  outcome_iff a := by
    constructor
    · rintro ⟨s, hs, hresult⟩
      obtain ⟨b, t, hrun, -, hb⟩ := h.gives s hs
      rw [hrun] at hresult
      exact Except.ok.inj hresult ▸ hb
    · intro ha
      obtain ⟨answers, htakes⟩ := h.takes a ha
      obtain ⟨s, hs⟩ := exists_answersWith answers
      obtain ⟨t, hrun, -⟩ := htakes s [] (by rwa [List.append_nil])
      exact ⟨s, hs.fault?, congrArg Prod.fst hrun⟩

/-- The property may be put in other words. -/
theorem congr (h : Exactly d Q) (hQ : ∀ a, Q a ↔ R a) : Exactly d R where
  gives := h.gives.mono fun a => (hQ a).1
  takes a ha := h.takes a ((hQ a).2 ha)

/-- Nothing but the value may come of it. -/
protected theorem pure (a : α) : Exactly (Pure.pure a : Draw α) (· = a) where
  gives := .pure rfl
  takes := by
    rintro _ rfl
    exact ⟨[], fun s rest hs => ⟨s, rfl, hs⟩⟩

/-- What succeeds without a look at the source has one outcome. -/
theorem lift {x : Except Failure α} {a : α} (hx : x = .ok a) :
    Exactly (liftM x : Draw α) (· = a) := by
  subst hx
  exact .pure a

/-- A draw after another takes the answers of both. -/
theorem bind {k : α → Draw β} {S : α → β → Prop} (h : Exactly d Q)
    (hk : ∀ a, Q a → Exactly (k a) (S a)) : Exactly (d >>= k) fun b => ∃ a, Q a ∧ S a b where
  gives := h.gives.bind fun a ha => (hk a ha).gives.mono fun _ hb => ⟨a, ha, hb⟩
  takes := by
    rintro b ⟨a, ha, hb⟩
    -- the answers of the second draw follow those of the first
    obtain ⟨answers, htakes⟩ := h.takes a ha
    obtain ⟨answers', htakes'⟩ := (hk a ha).takes b hb
    refine ⟨answers ++ answers', fun s rest hs => ?_⟩
    rw [List.append_assoc] at hs
    obtain ⟨t, hrun, ht⟩ := htakes s _ hs
    rw [Draw.result_bind, hrun]
    exact htakes' t rest ht

/-- What is drawn is put into something. -/
theorem bind_pure {f : α → β} (h : Exactly d Q) :
    Exactly (d >>= fun a => Pure.pure (f a)) fun b => ∃ a, Q a ∧ b = f a :=
  h.bind fun a _ => .pure (f a)

end Exactly

/-- Every number below a bound may be drawn, with the number itself as the answer. -/
private theorem exactly_below {n : Nat} (h : 0 < n) : Exactly (Draw.below n) (· < n) where
  gives := gives_below h
  takes a ha := by
    refine ⟨[a], fun s rest hs => ?_⟩
    obtain ⟨hanswer, hrest⟩ := hs.2 n ha
    exact ⟨_, by rw [Draw.result_below n hs.1, hanswer], hrest⟩

/-- Every integer of a range may be drawn. -/
theorem exactly_between {low high : Int} (h : low < high) :
    Exactly (Draw.between low high) fun n => low ≤ n ∧ n < high := by
  unfold Draw.between
  rw [if_pos h]
  -- the answer is how far the integer is above the lower bound
  refine (exactly_below (by omega)).bind_pure.congr fun n => ⟨?_, fun hn => ?_⟩
  · rintro ⟨a, ha, rfl⟩
    omega
  · exact ⟨(n - low).toNat, by omega, by omega⟩

/-- Every number below a positive bound may be drawn. -/
private theorem exactly_upTo {high : Int} (h : 0 < high) :
    Exactly (Draw.upTo high) fun n => (n : Int) < high := by
  unfold Draw.upTo
  rw [if_pos h]
  exact (exactly_below (by omega)).congr fun n => by omega

/-- Every item of a list may be drawn. -/
theorem exactly_oneOf (first : α) (rest : List α) :
    Exactly (Draw.oneOf first rest) (· ∈ first :: rest) := by
  -- the answer is the place of the item
  refine (exactly_below (Nat.succ_pos _)).bind_pure.congr fun a => ?_
  rw [List.mem_iff_getElem]
  constructor
  · rintro ⟨i, hi, rfl⟩
    exact ⟨i, hi, (List.getD_eq_getElem _ _ hi).symm⟩
  · rintro ⟨i, hi, rfl⟩
    exact ⟨i, hi, (List.getD_eq_getElem _ _ hi).symm⟩

/-! ## Literals and names -/

/-- A literal of the kind that a value is. -/
theorem drawValue_kind (s : Settings) (k : Kind) : drawValue s (.kind k) = drawLiteral s k := rfl

/-- An integer with few enough digits is written in full. -/
theorem numeral_of_fits {n : Int} (h : Fits n) : numeral n = .ok (toString n) := by
  unfold numeral
  rw [writeInt_of_fits h]

/-- An integer with too many digits is not written at all. -/
theorem numeral_of_not_fits {n : Int} (h : ¬ Fits n) : numeral n = .error (.tooLong ⟨⟩) := by
  have hwrite : writeInt n = .error ⟨⟩ := if_neg h
  unfold numeral
  rw [hwrite]

/-- An integer literal may be every integer of the range, if both ends can be written. -/
theorem exactly_drawInteger {low high : Int} (h : low < high) (hlow : Fits low)
    (hhigh : Fits high) :
    Exactly (drawInteger (.int low) (.int high)) fun text =>
      ∃ n : Int, (low ≤ n ∧ n < high) ∧ text = toString n := by
  refine (exactly_between h).bind fun n hn => ?_
  have hfits : Fits n := fits_of_between hlow hhigh hn.1 (Int.le_of_lt hn.2)
  exact .lift (numeral_of_fits hfits)

/-- Every character of the pool may be drawn. -/
private theorem exactly_drawChar :
    Exactly drawChar (· ∈ charPool) := exactly_oneOf 'a' charPool.tail

/-- A character literal is such a character in quotes. -/
theorem exactly_drawCharLiteral :
    Exactly drawCharLiteral fun text => ∃ c, c ∈ charPool ∧ text = String.ofList ['\'', c, '\''] :=
  exactly_drawChar.bind_pure

/-- A text of a length may be every text over the pool that has this length. -/
private theorem exactly_drawChars (length : Nat) :
    Exactly (drawChars length) fun cs => cs.length = length ∧ ∀ c ∈ cs, c ∈ charPool := by
  -- on the length; the first character and the others are drawn one after the other
  induction length with
  | zero =>
    refine (Exactly.pure []).congr fun cs => ⟨?_, fun hcs => List.length_eq_zero_iff.1 hcs.1⟩
    rintro rfl
    exact ⟨rfl, nofun⟩
  | succ length ih =>
    refine (exactly_drawChar.bind fun c _ => ih.bind_pure).congr fun cs => ?_
    constructor
    · rintro ⟨c, hc, rest, ⟨rfl, hrest⟩, rfl⟩
      exact ⟨rfl, List.forall_mem_cons.2 ⟨hc, hrest⟩⟩
    · rintro ⟨hlength, hpool⟩
      obtain ⟨c, rest, rfl⟩ := List.exists_cons_of_length_eq_add_one hlength
      obtain ⟨hc, hrest⟩ := List.forall_mem_cons.1 hpool
      exact ⟨c, hc, rest, ⟨Nat.succ.inj hlength, hrest⟩, rfl⟩

/-- A string may have every length from the lower bound to the upper one. -/
theorem exactly_drawString {low high : Int} (hpos : 1 ≤ low) (h : low ≤ high) :
    Exactly (drawString (.int low) (.int high)) fun text =>
      ∃ cs : List Char, (low ≤ cs.length ∧ cs.length ≤ high) ∧ (∀ c ∈ cs, c ∈ charPool) ∧
        text = String.ofList ('"' :: cs ++ ['"']) := by
  -- the upper bound is a length that may be drawn, so the range goes one further
  have hdraw : drawString (.int low) (.int high) = (do
      let length ← Draw.between low (high + 1)
      return String.ofList ('"' :: (← drawChars length.toNat) ++ ['"'])) := rfl
  rw [hdraw]
  have hlength : Exactly (Draw.between low (high + 1)) fun n => low ≤ n ∧ n < high + 1 :=
    exactly_between (by omega)
  refine (hlength.bind fun n _ => (exactly_drawChars n.toNat).bind_pure).congr fun text => ?_
  -- the length that is drawn is that of the characters
  constructor
  · rintro ⟨n, hn, cs, ⟨hcs, hpool⟩, rfl⟩
    exact ⟨cs, by omega, hpool, rfl⟩
  · rintro ⟨cs, hcs, hpool, rfl⟩
    exact ⟨cs.length, by omega, cs, ⟨by omega, hpool⟩, rfl⟩

/-- The number in the name of a variable may be every number below the bound. -/
theorem exactly_drawVarName {s : Settings} {bound : Int} (h : 0 < bound) (hfits : Fits bound)
    (hs : s.get .varSuffixMax = .int bound) (methodName : String) :
    Exactly (drawVarName s methodName) fun text =>
      ∃ n : Nat, (n : Int) < bound ∧ text = s!"var_{methodName}_{n}" := by
  rw [drawVarName, hs, Draw.upToValue_int]
  have hzero : Fits 0 := Nat.pow_pos (by decide)
  have hnumeral : ∀ n : Nat, (n : Int) < bound → numeral n = .ok (toString (n : Int)) := by
    intro n hn
    exact numeral_of_fits (fits_of_between hzero hfits (by omega) (Int.le_of_lt hn))
  refine ((exactly_upTo h).bind fun n hn => (Exactly.lift (hnumeral n hn)).bind_pure).congr ?_
  intro text
  constructor
  · rintro ⟨n, hn, _, rfl, rfl⟩
    exact ⟨n, hn, rfl⟩
  · rintro ⟨n, hn, rfl⟩
    exact ⟨n, hn, _, rfl, rfl⟩

end JavaFragments.Fragment
