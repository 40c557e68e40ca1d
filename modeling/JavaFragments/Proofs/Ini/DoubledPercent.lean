import JavaFragments.Ini.Interpolation
import JavaFragments.Proofs.Text.Strip

/-! # Percent signs that stand for themselves

A text whose percent signs are doubled can be stored, whatever it holds, and is found as it
was before when its references are replaced: it has none.

* `stored_doubled`   no percent sign in it is without meaning
* `parts_doubled`    it falls into parts that stand for themselves
* `get_doubled`      it is looked up as the text with single percent signs -/

namespace JavaFragments.Ini

open Text

/-- The text with every percent sign twice. -/
def doubled (s : List Char) : List Char := s.flatMap fun c => if c = '%' then ['%', '%'] else [c]

/-- The string with every percent sign twice. -/
def doublePercents (s : String) : String := String.ofList (doubled s.toList)

/-- An empty text stays empty. -/
@[simp] theorem doubled_nil : doubled [] = [] := rfl

/-- A percent sign is written twice. -/
@[simp] theorem doubled_percent (s : List Char) : doubled ('%' :: s) = '%' :: '%' :: doubled s := rfl

/-- Every other character is written once. -/
private theorem doubled_cons {c : Char} (h : c ≠ '%') (s : List Char) :
    doubled (c :: s) = c :: doubled s := by
  simp [doubled, h]

/-- No other character comes in or is lost. -/
theorem mem_doubled {c : Char} {s : List Char} : c ∈ doubled s ↔ c ∈ s := by
  induction s with
  | nil => simp
  | cons d s ih =>
    by_cases hd : d = '%'
    · subst hd
      simp [ih]
    · simp [doubled_cons hd, ih]

/-- A text without percent signs stays as it is. -/
theorem doubled_of_not_mem {s : List Char} (h : '%' ∉ s) : doubled s = s := by
  induction s with
  | nil => rfl
  | cons c s ih =>
    obtain ⟨hc, hs⟩ := not_or.1 fun hmem => h (List.mem_cons.2 hmem)
    rw [doubled_cons (Ne.symm hc), ih hs]

/-- It does not matter from which end a text is doubled. -/
private theorem reverse_doubled (s : List Char) : (doubled s).reverse = doubled s.reverse := by
  have happend : ∀ s t, doubled (s ++ t) = doubled s ++ doubled t := fun s t => List.flatMap_append
  induction s with
  | nil => rfl
  | cons c s ih =>
    rw [List.reverse_cons, happend, ← ih]
    by_cases hc : c = '%'
    · subst hc
      simp
    · simp [doubled_cons hc]

/-- No white space comes to the ends of a text. -/
theorem strip_doubled {s : List Char} (h : strip s = s) : strip (doubled s) = doubled s := by
  -- the first character of the doubled text is the first of the text
  have hstart : ∀ t, stripLeft t = t → stripLeft (doubled t) = doubled t := by
    intro t ht
    refine stripLeft_of_startsPlain fun c hc => startsPlain_of_stripLeft ht c ?_
    cases t with
    | nil => cases hc
    | cons d t =>
      by_cases hd : d = '%'
      · subst hd
        exact hc
      · rw [doubled_cons hd] at hc
        exact hc
  obtain ⟨hleft, hright⟩ := stripLeft_and_stripRight_of_strip h
  -- the other end is the start of the text read backwards
  have hreverse : stripLeft s.reverse = s.reverse := by
    rwa [stripRight_eq_reverse, List.reverse_eq_iff] at hright
  rw [strip, hstart s hleft, stripRight_eq_reverse, reverse_doubled, hstart _ hreverse,
    ← reverse_doubled, List.reverse_reverse]

/-! ## What is stored -/

/-- A pair starts with a percent sign. -/
private theorem withoutPairs_cons {c : Char} (h : c ≠ '%') (s : List Char) :
    withoutPairs (c :: s) = c :: withoutPairs s := by
  cases s <;> simp [withoutPairs, h]

/-- Without pairs there is no percent sign left in a doubled text. -/
private theorem not_mem_withoutPairs_doubled (s : List Char) : '%' ∉ withoutPairs (doubled s) := by
  -- on the text; each percent sign goes away together with its double
  induction s with
  | nil => simp [withoutPairs]
  | cons c s ih =>
    by_cases hc : c = '%'
    · subst hc
      rw [doubled_percent, withoutPairs]
      exact ih
    · rw [doubled_cons hc, withoutPairs_cons hc, List.mem_cons, not_or]
      exact ⟨Ne.symm hc, ih⟩

/-- No percent sign comes in where references are taken out. -/
private theorem not_mem_withoutReferences {s : List Char} (h : '%' ∉ s) :
    '%' ∉ withoutReferences s := by
  fun_induction withoutReferences s with
  | case1 => simp
  | case2 => simp at h
  | case3 => simp at h
  | case4 c rest _ ih => simp_all

/-- No percent sign of a doubled text is refused when it is stored. -/
theorem stored_doubled (s : List Char) :
    (withoutReferences (withoutPairs (doubled s))).contains '%' = false := by
  apply Bool.eq_false_iff.2
  rw [Ne, List.contains_iff_mem]
  exact not_mem_withoutReferences (not_mem_withoutPairs_doubled s)

/-! ## What is looked up -/

/-- A doubled text starts as the text does, up to its first percent sign. -/
private theorem takeWhile_doubled (s : List Char) :
    (doubled s).takeWhile (· ≠ '%') = s.takeWhile (· ≠ '%') := by
  induction s with
  | nil => rfl
  | cons c s ih =>
    by_cases hc : c = '%'
    · subst hc
      simp
    · rw [doubled_cons hc, List.takeWhile_cons, List.takeWhile_cons, ih]

/-- From there on it is the rest of the text, doubled. -/
private theorem dropWhile_doubled (s : List Char) :
    (doubled s).dropWhile (· ≠ '%') = doubled (s.dropWhile (· ≠ '%')) := by
  induction s with
  | nil => rfl
  | cons c s ih =>
    by_cases hc : c = '%'
    · subst hc
      simp
    · have hdrop : decide (c ≠ '%') = true := decide_eq_true hc
      rw [doubled_cons hc, List.dropWhile_cons, List.dropWhile_cons, if_pos hdrop, if_pos hdrop, ih]

/-- A part that stands for itself goes up to the next percent sign. -/
private theorem parts_cons {c : Char} (h : c ≠ '%') (s : List Char) :
    parts (c :: s) =
      .literal (c :: s.takeWhile (· ≠ '%')) :: parts (s.dropWhile (· ≠ '%')) := by
  rw [parts.eq_def]
  split <;> simp_all

/-- A doubled text falls into parts that stand for themselves, and together for the text. -/
theorem parts_doubled (s : List Char) :
    ∃ ts : List (List Char), parts (doubled s) = ts.map .literal ∧ ts.flatten = s := by
  -- on the length, as all characters up to the next percent sign are one part
  induction hn : s.length using Nat.strongRecOn generalizing s with
  | ind n ih =>
    subst hn
    cases s with
    | nil => exact ⟨[], by simp [parts], rfl⟩
    | cons c s =>
      by_cases hc : c = '%'
      · subst hc
        obtain ⟨ts, hts, hs⟩ := ih s.length (Nat.lt_succ_self _) s rfl
        exact ⟨['%'] :: ts, by rw [doubled_percent, parts, hts]; rfl, by simp [hs]⟩
      · have hle : (s.dropWhile (· ≠ '%')).length ≤ s.length :=
          (List.dropWhile_sublist _).length_le
        obtain ⟨ts, hts, hs⟩ := ih _ (Nat.lt_succ_of_le hle) (s.dropWhile (· ≠ '%')) rfl
        refine ⟨(c :: s.takeWhile (· ≠ '%')) :: ts, ?_, ?_⟩
        · rw [doubled_cons hc, parts_cons hc, takeWhile_doubled, dropWhile_doubled, hts]
          rfl
        · rw [List.flatten_cons, hs, List.cons_append, List.takeWhile_append_dropWhile]

/-- Parts that stand for themselves are not replaced. -/
private theorem expand_literals (find? : String → Option RawValue) (q : Query) (depth : Nat)
    {s : String} {ts : List (List Char)} (h : parts s.toList = ts.map .literal) :
    expand find? q (depth + 1) (.text s) = .ok (ts.map fun t => .text (String.ofList t)) := by
  rw [expand, h]
  clear h
  induction ts with
  | nil => rfl
  | cons t ts ih => rw [List.map_cons, List.flatMapM_cons, ih]; rfl

/-- Parts that are texts are put together again. -/
private theorem joinPieces_texts (before : String) (index : Nat) (ts : List (List Char)) :
    joinPieces before index (ts.map fun t => .text (String.ofList t)) =
      .ok (before ++ String.ofList ts.flatten) := by
  induction ts generalizing before index with
  | nil => simp [joinPieces]
  | cons t ts ih =>
    rw [List.map_cons, joinPieces, ih, List.flatten_cons, String.ofList_append, String.append_assoc]

/-- A value that is stored with doubled percent signs is looked up with single ones. -/
theorem get_doubled {d : Document} {sectionName option s : String}
    (h : d.raw sectionName option = .ok (.text (doublePercents s))) :
    d.get sectionName option = .ok s := by
  -- the value has no references, whatever the document holds
  obtain ⟨ts, hts, hs⟩ := parts_doubled s.toList
  have hparts : parts (doublePercents s).toList = ts.map .literal := by
    rw [doublePercents, String.toList_ofList, hts]
  rw [Document.get, h]
  show (do joinPieces "" 0 (← expand _ _ maxDepth _)) = _
  rw [maxDepth, expand_literals _ _ _ hparts]
  show joinPieces "" 0 _ = _
  rw [joinPieces_texts, hs, String.ofList_toList, String.empty_append]

end JavaFragments.Ini
