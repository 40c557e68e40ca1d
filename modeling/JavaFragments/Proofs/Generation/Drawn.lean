import JavaFragments.Proofs.Generation.Limits

/-! # What checked settings allow to be drawn

Settings that pass their check, with bounds that can be written, are exact: what they allow may be
drawn, and nothing else.  Integers exclude the upper bound of their range, and lengths of strings
include it:

* `Checked.parts`         what the check says of the bounds
* `produces_of_checked`   what may be drawn -/

namespace JavaFragments.Options

open Number Fragment

/-- The options that say what is drawn for integers, strings and names. -/
def bounds : List OptionName :=
  [.intMin, .intMax, .longMin, .longMax, .stringMinLength, .stringMaxLength, .varSuffixMax]

/-- Settings pass their check and hold the bounds of some options.  Anything may have been assigned
    to the others. -/
structure Checked (s : Settings) (o : Options) : Prop where
  check : s.check = .ok ()
  get : ∀ n ∈ bounds, s.get n = o.value n

/-- The bounds of what is drawn are short enough to be written. -/
structure BoundsFit (o : Options) : Prop where
  intMin : Fits o.intMin
  intMax : Fits o.intMax
  longMin : Fits o.longMin
  longMax : Fits o.longMax
  varSuffixMax : Fits o.varSuffixMax

namespace Checked

variable {s : Settings} {o : Options}

/-- Settings made of options hold all of them. -/
theorem ofOptions (h : o.check = .ok ()) : Checked (.ofOptions o) o := ⟨h, fun _ _ => rfl⟩

/-- Each part of the check is passed. -/
theorem parts (h : Checked s o) :
    o.intMin < o.intMax ∧ o.longMin < o.longMax ∧
      (1 ≤ o.stringMinLength ∧ o.stringMinLength ≤ o.stringMaxLength) ∧ 1 ≤ o.varSuffixMax := by
  -- one check after the other
  obtain ⟨_, -, hcheck⟩ := bind_eq_ok_iff.1 h.check
  obtain ⟨_, hints, hcheck⟩ := bind_eq_ok_iff.1 hcheck
  obtain ⟨_, hlongs, hcheck⟩ := bind_eq_ok_iff.1 hcheck
  obtain ⟨_, hlengths, hcheck⟩ := bind_eq_ok_iff.1 hcheck
  obtain ⟨_, -, hsuffix⟩ := bind_eq_ok_iff.1 hcheck
  rw [h.get .stringMinLength (by decide), h.get .stringMaxLength (by decide)] at hlengths
  exact ⟨(Settings.checkBounds_eq_ok_iff (h.get _ (by decide)) (h.get _ (by decide))).1 hints,
    (Settings.checkBounds_eq_ok_iff (h.get _ (by decide)) (h.get _ (by decide))).1 hlongs,
    (Settings.checkLengths_eq_ok_iff _ _).1 hlengths,
    (Settings.checkPositive_eq_ok_iff (h.get _ (by decide))).1 hsuffix⟩

/-- Integers are drawn within the bounds of their type. -/
theorem exactly_int (h : Checked s o) (hlow : Fits o.intMin) (hhigh : Fits o.intMax) :
    Exactly (drawValue s (.kind .int)) fun text =>
      ∃ n : Int, (o.intMin ≤ n ∧ n < o.intMax) ∧ text = toString n := by
  rw [drawValue_kind, drawLiteral, h.get .intMin (by decide), h.get .intMax (by decide)]
  exact exactly_drawInteger h.parts.1 hlow hhigh

/-- Long integers are drawn within the bounds of theirs. -/
theorem exactly_long (h : Checked s o) (hlow : Fits o.longMin) (hhigh : Fits o.longMax) :
    Exactly (drawValue s (.kind .long)) fun text =>
      ∃ n : Int, (o.longMin ≤ n ∧ n < o.longMax) ∧ text = toString n := by
  rw [drawValue_kind, drawLiteral, h.get .longMin (by decide), h.get .longMax (by decide)]
  exact exactly_drawInteger h.parts.2.1 hlow hhigh

end Checked

/-- Settings that pass their check, with bounds that can be written, say exactly what may be drawn:
    an integer of the range of its type, a character of the pool, a string over the pool with a
    length between both bounds, and a number below its bound behind the name of a variable.  None of
    these draws fails, whatever the source answers. -/
theorem produces_of_checked {s : Settings} {o : Options} (h : Checked s o) (hfits : o.BoundsFit) :
    Produces (drawValue s (.kind .int))
        (fun text => ∃ n : Int, (o.intMin ≤ n ∧ n < o.intMax) ∧ text = toString n) ∧
      Produces (drawValue s (.kind .long))
        (fun text => ∃ n : Int, (o.longMin ≤ n ∧ n < o.longMax) ∧ text = toString n) ∧
      Produces (drawValue s (.kind .char))
        (fun text => ∃ c, c ∈ charPool ∧ text = String.ofList ['\'', c, '\'']) ∧
      Produces (drawValue s (.kind .string))
        (fun text => ∃ cs : List Char,
          (o.stringMinLength ≤ cs.length ∧ cs.length ≤ o.stringMaxLength) ∧
          (∀ c ∈ cs, c ∈ charPool) ∧ text = String.ofList ('"' :: cs ++ ['"'])) ∧
      ∀ methodName, Produces (drawVarName s methodName)
        (fun text => ∃ n : Nat, (n : Int) < o.varSuffixMax ∧ text = s!"var_{methodName}_{n}") := by
  obtain ⟨-, -, ⟨hpos, hlengths⟩, hsuffix⟩ := h.parts
  refine ⟨(h.exactly_int hfits.intMin hfits.intMax).produces,
    (h.exactly_long hfits.longMin hfits.longMax).produces, exactly_drawCharLiteral.produces, ?_,
    fun methodName => ?_⟩
  · rw [drawValue_kind, drawLiteral, h.get .stringMinLength (by decide),
      h.get .stringMaxLength (by decide)]
    exact (exactly_drawString hpos hlengths).produces
  · exact (exactly_drawVarName hsuffix hfits.varSuffixMax (h.get _ (by decide)) methodName).produces

/-- Options that leave one integer, two long ones, and strings of one character. -/
def narrow : Options :=
  { defaults with
    intMin := -2, intMax := -1, longMin := 2147483648, longMax := 2147483650
    stringMinLength := 1, stringMaxLength := 1, varSuffixMax := 1 }

/-- With these one integer is drawn, a long one above the range of int, and no empty string. -/
theorem produces_of_checked_narrow :
    Checked (.ofOptions narrow) narrow ∧ narrow.BoundsFit ∧
      Produces (drawValue (.ofOptions narrow) (.kind .int)) (· = "-2") ∧
      Outcome (drawValue (.ofOptions narrow) (.kind .long)) "2147483649" ∧
      Outcome (drawValue (.ofOptions narrow) (.kind .string)) "\"x\"" ∧
      ¬ Outcome (drawValue (.ofOptions narrow) (.kind .string)) "\"\"" := by
  have hchecked : Checked (.ofOptions narrow) narrow := .ofOptions (check_eq_ok_iff_consistent.2
    ⟨by decide +kernel, by decide, by decide, by decide, by decide, by decide⟩)
  have hfits : narrow.BoundsFit :=
    ⟨by decide +kernel, by decide +kernel, by decide +kernel, by decide +kernel, by decide +kernel⟩
  obtain ⟨hint, hlong, -, hstring, -⟩ := produces_of_checked hchecked hfits
  refine ⟨hchecked, hfits, ⟨hint.succeeds, fun text => (hint.outcome_iff text).trans ?_⟩, ?_, ?_, ?_⟩
  · constructor
    · rintro ⟨n, ⟨hlow, hhigh⟩, rfl⟩
      have hlow : -2 ≤ n := hlow
      have hhigh : n < -1 := hhigh
      obtain rfl : n = -2 := by omega
      rfl
    · rintro rfl
      exact ⟨-2, by decide, rfl⟩
  · exact (hlong.outcome_iff _).2 ⟨2147483649, by decide, by decide +kernel⟩
  · exact (hstring.outcome_iff _).2 ⟨['x'], by decide, List.forall_mem_singleton.2 (by decide), rfl⟩
  · -- the empty string between its quotes has two characters, and the shortest has three
    rw [hstring.outcome_iff]
    rintro ⟨cs, ⟨hlow, -⟩, -, heq⟩
    have hlow : (1 : Int) ≤ cs.length := hlow
    have hlength := congrArg (·.toList.length) heq
    have htwo : "\"\"".toList.length = 2 := by decide
    simp only [String.toList_ofList, List.length_append, List.length_cons, List.length_nil, htwo]
      at hlength
    omega

end JavaFragments.Options
