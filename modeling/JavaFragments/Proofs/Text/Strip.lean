import JavaFragments.Text.Blank

/-! # Texts without white space around them

* `stripRight_append`         white space behind a text goes
* `stripRight_append_cons`    nothing before another character goes
* `strip_append`, `append_strip`      white space behind or before a text does not matter
* `stripLeft_and_stripRight_of_strip` a text that is kept is kept at both ends
* `strip_eq_self_iff`         and has no white space there
* `strip_strip`               what was stripped once is kept -/

namespace JavaFragments.Text

/-- A text does not start with white space. -/
def StartsPlain (s : List Char) : Prop := ∀ c, s.head? = some c → isBlank c = false

/-- Nothing goes from such a text at its start. -/
theorem stripLeft_of_startsPlain {s : List Char} (h : StartsPlain s) : stripLeft s = s := by
  cases s with
  | nil => rfl
  | cons c s =>
    have hc : isBlank c = false := h c rfl
    rw [stripLeft, List.dropWhile_cons_of_neg (by simp [hc])]

/-- A text from which nothing goes there starts so. -/
theorem startsPlain_of_stripLeft {s : List Char} (h : stripLeft s = s) : StartsPlain s := by
  intro c hc
  cases s with
  | nil => exact nomatch hc
  | cons d s =>
    obtain rfl := Option.some.inj hc
    cases hd : isBlank d with
    | false => rfl
    | true =>
      rw [stripLeft, List.dropWhile_cons_of_pos hd] at h
      -- what is left of a shorter text cannot be the longer one
      have hle : (s.dropWhile isBlank).length ≤ s.length := (List.dropWhile_sublist _).length_le
      rw [h] at hle
      exact absurd hle (by simp)

/-- White space before a text goes. -/
theorem stripLeft_append {s t : List Char} (h : ∀ c ∈ s, isBlank c = true) :
    stripLeft (s ++ t) = stripLeft t :=
  List.dropWhile_append_of_pos h

/-- What is kept at the end is what is kept at the start of the reversed text. -/
theorem stripRight_eq_reverse (s : List Char) : stripRight s = (stripLeft s.reverse).reverse := rfl

/-- White space behind a text goes. -/
theorem stripRight_append {s t : List Char} (h : ∀ c ∈ t, isBlank c = true) :
    stripRight (s ++ t) = stripRight s := by
  have hreverse : ∀ c ∈ t.reverse, isBlank c = true := fun c hc => h c (List.mem_reverse.1 hc)
  rw [stripRight_eq_reverse, List.reverse_append, stripLeft_append hreverse, stripRight_eq_reverse]

/-- Nothing before a character that is not white space is stripped at the end. -/
theorem stripRight_append_cons {c : Char} (h : isBlank c = false) (s t : List Char) :
    stripRight (s ++ c :: t) = s ++ c :: stripRight t := by
  have hplain : StartsPlain (c :: s.reverse) := fun d hd => Option.some.inj hd ▸ h
  have hkept : stripLeft (c :: s.reverse) = c :: s.reverse := stripLeft_of_startsPlain hplain
  rw [stripRight_eq_reverse, stripRight_eq_reverse]
  simp only [List.reverse_append, List.reverse_cons, List.append_assoc, List.singleton_append]
  rw [stripLeft, List.dropWhile_append]
  split
  · -- nothing but white space stands behind the character
    rename_i hempty
    rw [stripLeft, List.isEmpty_iff.1 hempty]
    show (stripLeft (c :: s.reverse)).reverse = _
    rw [hkept]
    simp
  · simp [stripLeft]

/-- Nothing before the end goes if the first character is no white space. -/
theorem stripRight_cons {c : Char} (h : isBlank c = false) (s : List Char) :
    stripRight (c :: s) = c :: stripRight s :=
  stripRight_append_cons h [] s

/-- A text that is kept by `strip` is kept at both ends. -/
theorem stripLeft_and_stripRight_of_strip {s : List Char} (h : strip s = s) :
    stripLeft s = s ∧ stripRight s = s := by
  have hsuffix : stripLeft s <:+ s := List.dropWhile_suffix _
  have hprefix : strip s <+: stripLeft s := by
    rw [strip, stripRight_eq_reverse, ← List.reverse_suffix, List.reverse_reverse]
    exact List.dropWhile_suffix _
  -- stripping at the start cannot shorten what stripping at both ends does not
  have hlength : s.length ≤ (stripLeft s).length := by
    have hle := hprefix.length_le
    rwa [h] at hle
  have hleft : stripLeft s = s := hsuffix.eq_of_length_le hlength
  exact ⟨hleft, by rwa [strip, hleft] at h⟩

/-- A text does not end in white space. -/
def EndsPlain (s : List Char) : Prop := ∀ c, s.getLast? = some c → isBlank c = false

/-- Nothing goes at the end of such a text, and of no other one. -/
theorem stripRight_eq_self_iff {s : List Char} : stripRight s = s ↔ EndsPlain s := by
  have hreverse : EndsPlain s ↔ StartsPlain s.reverse := by
    simp only [EndsPlain, StartsPlain, List.head?_reverse]
  rw [hreverse, stripRight_eq_reverse, List.reverse_eq_iff]
  exact ⟨startsPlain_of_stripLeft, stripLeft_of_startsPlain⟩

/-- A text is kept if there is no white space at its ends. -/
theorem strip_eq_self_iff {s : List Char} : strip s = s ↔ StartsPlain s ∧ EndsPlain s := by
  constructor
  · intro h
    obtain ⟨hleft, hright⟩ := stripLeft_and_stripRight_of_strip h
    exact ⟨startsPlain_of_stripLeft hleft, stripRight_eq_self_iff.1 hright⟩
  · intro ⟨hstart, hend⟩
    rw [strip, stripLeft_of_startsPlain hstart, stripRight_eq_self_iff.2 hend]

/-- White space behind a text does not matter. -/
theorem strip_append {s t : List Char} (h : ∀ c ∈ t, isBlank c = true) :
    strip (s ++ t) = strip s := by
  have hblank : stripLeft t = [] := by
    rw [← List.append_nil t, stripLeft_append h]
    rfl
  rw [strip, strip, stripLeft, List.dropWhile_append]
  -- either all of the text is white space, or its end is kept where it was
  split
  · rename_i hempty
    show stripRight (stripLeft t) = stripRight (stripLeft s)
    rw [hblank, stripLeft, List.isEmpty_iff.1 hempty]
  · exact stripRight_append h

/-- White space before a text does not matter. -/
theorem append_strip {s t : List Char} (h : ∀ c ∈ s, isBlank c = true) :
    strip (s ++ t) = strip t := by
  rw [strip, stripLeft_append h, strip]

/-- A text is what `stripRight` keeps and white space behind it. -/
theorem exists_stripRight_append (s : List Char) :
    ∃ t, (∀ c ∈ t, isBlank c = true) ∧ s = stripRight s ++ t := by
  refine ⟨(s.reverse.takeWhile isBlank).reverse, ?_, ?_⟩
  · intro c hc
    exact List.all_eq_true.1 List.all_takeWhile c (List.mem_reverse.1 hc)
  · rw [stripRight, ← List.reverse_append, List.takeWhile_append_dropWhile, List.reverse_reverse]

/-- What is kept stands at the start of the text. -/
theorem isPrefix_stripRight (s : List Char) : stripRight s <+: s := by
  obtain ⟨t, -, hs⟩ := exists_stripRight_append s
  exact ⟨t, hs.symm⟩

/-- Nothing comes in. -/
theorem mem_of_mem_stripRight {c : Char} {s : List Char} (h : c ∈ stripRight s) : c ∈ s := by
  exact (isPrefix_stripRight s).subset h

/-- Stripping at the end first does not matter. -/
theorem strip_stripRight (s : List Char) : strip (stripRight s) = strip s := by
  obtain ⟨t, ht, hs⟩ := exists_stripRight_append s
  calc strip (stripRight s) = strip (stripRight s ++ t) := (strip_append ht).symm
    _ = strip s := by rw [← hs]

/-- Stripping at the end once is enough. -/
theorem stripRight_stripRight (s : List Char) : stripRight (stripRight s) = stripRight s := by
  obtain ⟨t, ht, hs⟩ := exists_stripRight_append s
  calc stripRight (stripRight s) = stripRight (stripRight s ++ t) := (stripRight_append ht).symm
    _ = stripRight s := by rw [← hs]

/-- Stripping once is enough. -/
theorem strip_strip (s : List Char) : strip (strip s) = strip s := by
  have hblank : ∀ c ∈ s.takeWhile isBlank, isBlank c = true := List.all_eq_true.1 List.all_takeWhile
  calc strip (strip s) = strip (stripLeft s) := strip_stripRight _
    _ = strip (s.takeWhile isBlank ++ stripLeft s) := (append_strip hblank).symm
    _ = strip s := by rw [stripLeft, List.takeWhile_append_dropWhile]

/-- Nothing comes in where a text is stripped. -/
theorem mem_of_mem_strip {c : Char} {s : List Char} (h : c ∈ strip s) : c ∈ s :=
  (List.dropWhile_suffix _).subset (mem_of_mem_stripRight h)

end JavaFragments.Text
