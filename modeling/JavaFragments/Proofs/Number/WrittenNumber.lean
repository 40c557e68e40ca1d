import JavaFragments.Fragment.Failure
import JavaFragments.Proofs.Number.WrittenInteger
import JavaFragments.Value.Arithmetic

/-! # The characters of written numbers

What one can be added to is a truth value, an integer or a floating-point number.  However
large or small it is, what is written for it has no underscore, and of the letters only those
of exponents, of `inf` and `nan`, and of the words for truth values:

* `isNumberChar_text`      floating-point numbers
* `isNumberChar_written`   whatever one can be added to -/

namespace JavaFragments.Number

/-- A character that a number may be written with. -/
def IsNumberChar (c : Char) : Prop := c.isDigit ∨ c ∈ "+-.aefilnrsuTF".toList

instance : DecidablePred IsNumberChar := fun _ => inferInstanceAs (Decidable (_ ∨ _))

/-- Characters that are known, checked one by one. -/
private theorem isNumberChar_of_all {cs : List Char}
    (h : cs.all (fun c => decide (IsNumberChar c)) = true) : ∀ c ∈ cs, IsNumberChar c :=
  fun c hc => of_decide_eq_true (List.all_eq_true.1 h c hc)

/-! ## Floating-point numbers -/

/-- Digits are such characters. -/
private theorem isNumberChar_toDigits (n : Nat) : ∀ c ∈ Nat.toDigits 10 n, IsNumberChar c :=
  fun _ hc => .inl (Nat.isDigit_of_mem_toDigits (by decide) (by decide) hc)

/-- So are zeros. -/
private theorem isNumberChar_replicate (n : Nat) : ∀ c ∈ List.replicate n '0', IsNumberChar c := by
  intro c hc
  rw [List.eq_of_mem_replicate hc]
  decide

/-- So is an exponent: a letter, a sign and digits. -/
private theorem isNumberChar_exponentText (e : Int) : ∀ c ∈ exponentText e, IsNumberChar c := by
  refine List.forall_mem_cons.2 ⟨by decide, List.forall_mem_cons.2 ⟨?_, ?_⟩⟩
  · -- the sign is written in both cases
    split <;> decide
  · exact List.forall_mem_append.2 ⟨isNumberChar_replicate _, isNumberChar_toDigits _⟩

/-- Digits are written with zeros, a point and an exponent only, wherever the first one is. -/
private theorem isNumberChar_digitsText {ds : List Char} (h : ∀ c ∈ ds, IsNumberChar c) (e : Int) :
    ∀ c ∈ digitsText ds e, IsNumberChar c := by
  have hexponent := isNumberChar_exponentText e
  have hpoint : IsNumberChar '.' := by decide
  have hzero : IsNumberChar '0' := by decide
  unfold digitsText
  -- with an exponent if the first digit is far from the point
  split
  · -- one digit before the point, or no point at all
    split
    · obtain ⟨hd, hds⟩ := List.forall_mem_cons.1 h
      refine List.forall_mem_append.2 ⟨?_, hexponent⟩
      exact List.forall_mem_cons.2 ⟨hd, List.forall_mem_cons.2 ⟨hpoint, hds⟩⟩
    · exact List.forall_mem_append.2 ⟨h, hexponent⟩
  · -- zeros before the digits, or the point among or behind them
    split
    · refine List.forall_mem_append.2 ⟨?_, h⟩
      exact List.forall_mem_cons.2
        ⟨hzero, List.forall_mem_cons.2 ⟨hpoint, isNumberChar_replicate _⟩⟩
    · have hwhole : ∀ c ∈ ds.take (e.toNat + 1), IsNumberChar c := fun c hc =>
        h c (List.mem_of_mem_take hc)
      refine List.forall_mem_append.2
        ⟨List.forall_mem_append.2 ⟨hwhole, isNumberChar_replicate _⟩, ?_⟩
      refine List.forall_mem_cons.2 ⟨hpoint, ?_⟩
      split
      · exact List.forall_mem_singleton.2 hzero
      · exact fun c hc => h c (List.mem_of_mem_drop hc)

/-- A number without its sign has digits, or is infinite. -/
private theorem isNumberChar_magnitude (m : Magnitude) : ∀ c ∈ m.text, IsNumberChar c := by
  unfold Magnitude.text
  split
  · exact isNumberChar_digitsText (isNumberChar_toDigits _) _
  · exact isNumberChar_of_all (by decide)

/-- A floating-point number has a sign at most before them, or is none. -/
theorem isNumberChar_text (x : Binary64) : ∀ c ∈ x.text.toList, IsNumberChar c := by
  cases x with
  | nan payload =>
    rw [Binary64.text]
    exact isNumberChar_of_all (by decide)
  | signed negative m =>
    rw [Binary64.text, String.toList_ofList]
    refine List.forall_mem_append.2 ⟨?_, isNumberChar_magnitude m⟩
    cases negative <;> exact isNumberChar_of_all (by decide)

/-! ## What is counted -/

/-- An integer has digits and a sign at most. -/
theorem isNumberChar_toString (n : Int) : ∀ c ∈ (toString n).toList, IsNumberChar c := by
  intro c hc
  obtain rfl | hdigit := mem_toString_int hc
  · decide
  · exact .inl hdigit

open Fragment in
/-- What one can be added to is written as a number. -/
theorem isNumberChar_written {v v' : Value} {i : Increment} {text : String}
    (hnext : v.next i = .ok v') (htext : written v = .ok text) :
    ∀ c ∈ text.toList, IsNumberChar c := by
  -- only truth values, integers and floating-point numbers can be counted up
  cases v with
  | bool b =>
    obtain rfl : (if b then "True" else "False") = text := Except.ok.inj htext
    cases b <;> exact isNumberChar_of_all (by decide)
  | int n =>
    simp only [written, Value.text, Value.describe] at htext
    cases hint : writeInt n with
    | error e =>
      rw [hint] at htext
      cases htext
    | ok s =>
      rw [writeInt_of_fits (writeInt_eq_ok_iff.1 ⟨s, hint⟩)] at htext
      exact Except.ok.inj htext ▸ isNumberChar_toString n
  | float x =>
    obtain rfl : x.text = text := Except.ok.inj htext
    exact isNumberChar_text x
  | null | str s | list items | kind k => cases hnext

end JavaFragments.Number
