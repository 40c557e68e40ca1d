import JavaFragments.Proofs.Generation.Drawn
import JavaFragments.Proofs.Naming.IssuedName

/-! # Names of local variables

A local variable is named by the name of its method and a number that is drawn for it.  The
name of the method may be any text, also one with underscores and digits at its end.  As a
number has no underscore, it is all that stands behind the last one:

* `split_at_last`         what stands before and behind the last underscore
* `localName_inj`         a name tells the method and the number
* `fst_nextVarName`       what is named with the number that is drawn
* `suffix_of_checked`     a number is drawn if the options are as they are accepted -/

namespace JavaFragments.Session

open Fragment Number
open Options (Checked)

/-- The name of a local variable of a method, with a number. -/
def localName (methodName : String) (n : Nat) : String :=
  "var_" ++ methodName ++ "_" ++ toString n

/-- The number that is drawn for a local variable that is named now. -/
def Workbench.suffix (w : Workbench) : Except Failure Nat :=
  ((Draw.upToValue (w.settings.get .varSuffixMax)).result w.source).1

/-! ## What a name tells -/

/-- What stands before and behind the last `c` of a text is determined by the text. -/
theorem split_at_last {α : Type} {c : α} {as bs xs ys : List α} (hb : c ∉ bs) (hy : c ∉ ys)
    (h : as ++ c :: bs = xs ++ c :: ys) : as = xs ∧ bs = ys := by
  -- the last one is the first one of the text in reverse
  have hreverse : bs.reverse ++ c :: as.reverse = ys.reverse ++ c :: xs.reverse := by
    simpa using congrArg List.reverse h
  obtain ⟨hbs, has⟩ := split_at_first (mt List.mem_reverse.1 hb) (mt List.mem_reverse.1 hy) hreverse
  exact ⟨List.reverse_inj.1 has, List.reverse_inj.1 hbs⟩

/-- A name of a local variable is a start, an underscore and a number. -/
theorem toList_localName (methodName : String) (n : Nat) :
    (localName methodName n).toList =
      ("var_".toList ++ methodName.toList) ++ '_' :: Nat.toDigits 10 n := by
  simp [localName]

/-- Names of local variables are the same only for the same method and the same number. -/
theorem localName_inj {m n : String} {k l : Nat} :
    localName m k = localName n l ↔ m = n ∧ k = l := by
  constructor
  · intro h
    have hlist := congrArg String.toList h
    rw [toList_localName, toList_localName] at hlist
    -- a number has no underscore, so the last one stands before it
    obtain ⟨hmethod, hdigits⟩ :=
      split_at_last Nat.underscore_not_in_toDigits Nat.underscore_not_in_toDigits hlist
    exact ⟨String.toList_inj.1 (List.append_cancel_left hmethod), toDigits_inj hdigits⟩
  · rintro ⟨rfl, rfl⟩
    rfl

/-! ## What a session names -/

/-- A local variable is named with the number that is drawn, if that is not too long. -/
theorem fst_nextVarName (w : Workbench) (m : String) :
    ((nextVarName m).result w).1 =
      match w.suffix with
      | .ok n => if Fits n then .ok (localName m n) else .error (.tooLong ⟨⟩)
      | .error f => .error f := by
  have hdraw : ((nextVarName m).result w).1 = ((drawVarName w.settings m).result w.source).1 := rfl
  rw [hdraw, drawVarName, Draw.result_bind, Workbench.suffix]
  cases (Draw.upToValue (w.settings.get .varSuffixMax)).result w.source with
  | mk drawn s =>
    cases drawn with
    | error f => rfl
    | ok n =>
      show ((do return s!"var_{m}_{← numeral n}" : Draw String).result s).1 = _
      -- the number is written after it was drawn
      by_cases hfits : Fits n
      · rw [numeral_of_fits hfits]
        exact (if_pos hfits).symm
      · rw [numeral_of_not_fits hfits]
        exact (if_neg hfits).symm

/-- With options as they are accepted a number below their bound is drawn from a source that can
    answer. -/
theorem suffix_of_checked {w : Workbench} {o : Options} (h : Checked w.settings o)
    (hs : w.source.fault? = none) :
    ∃ n : Nat, (n : Int) < o.varSuffixMax ∧ w.suffix = .ok n := by
  have hbound : w.settings.get .varSuffixMax = .int o.varSuffixMax := h.get _ (by decide)
  obtain ⟨-, -, -, hpos⟩ := h.parts
  obtain ⟨n, s, hrun, -, hn⟩ := gives_upTo hpos w.source hs
  refine ⟨n, hn, ?_⟩
  rw [Workbench.suffix, hbound, Draw.upToValue_int, hrun]

end JavaFragments.Session
