import JavaFragments.FileTree.Path

/-! # Paths that lead down

Every text is that of the path that it denotes.  Names lead down if none of them stays in
place or leads up; nothing about a path of such names is to be tidied:

* `text_ofText`            the text of the path of a text
* `tidy_of_leadDown`, `trimmed_of_leadDown`   a path that leads down is tidy and trimmed
* `size_text_le`           a path that goes on where another one ends has no shorter text -/

namespace JavaFragments

/-! ## Texts -/

/-- There is always a piece, perhaps an empty one. -/
private theorem exists_segments (s : List Char) : ∃ seg segs, segments s = seg :: segs := by
  fun_induction segments s with
  | case1 => exact ⟨[], [], rfl⟩
  | case2 s _ => exact ⟨[], segments s, rfl⟩
  | case3 c s _ _ _ => exact ⟨[c], [], rfl⟩
  | case4 c s _ seg segs _ _ => exact ⟨c :: seg, segs, rfl⟩

/-- The pieces between slashes, with the slashes, are the whole text. -/
private theorem intercalate_segments (s : List Char) : ['/'].intercalate (segments s) = s := by
  -- along the characters; a slash ends a piece, and any other character joins the next one
  fun_induction segments s with
  | case1 => rfl
  | case2 s ih =>
    obtain ⟨seg, segs, hs⟩ := exists_segments s
    rw [hs] at ih ⊢
    rw [List.intercalate_cons_cons, ih]
    rfl
  | case3 c s _ hs _ =>
    obtain ⟨seg, segs, hs'⟩ := exists_segments s
    rw [hs] at hs'
    cases hs'
  | case4 c s _ seg segs hs ih =>
    rw [hs] at ih
    cases segs with
    | nil => rw [List.intercalate_singleton] at ih ⊢; rw [ih]
    | cons next segs =>
      rw [List.intercalate_cons_cons] at ih ⊢
      rw [List.cons_append, List.cons_append, ih]

/-- A text without slashes is one piece. -/
private theorem segments_of_not_mem {s : List Char} (h : '/' ∉ s) : segments s = [s] := by
  induction s with
  | nil => rfl
  | cons c s ih =>
    obtain ⟨hc, hs⟩ := not_or.1 (mt List.mem_cons.2 h)
    rw [segments, ih hs]
    exact fun he => hc he.symm

/-- A run of one character. -/
private theorem takeWhile_eq_replicate (c : Char) (s : List Char) :
    s.takeWhile (· = c) = List.replicate (s.takeWhile (· = c)).length c := by
  refine List.eq_replicate_iff.2 ⟨rfl, fun d hd => ?_⟩
  have hall : (s.takeWhile (· = c)).all (· = c) = true := List.all_takeWhile
  exact of_decide_eq_true (List.all_eq_true.1 hall d hd)

namespace Path

/-- Every text is that of the path that it denotes. -/
theorem text_ofText (s : String) : (ofText s).text = s := by
  have hslashes := takeWhile_eq_replicate '/' s.toList
  -- what is left behind the slashes at the start
  have hsteps : String.intercalate "/" (ofText s).steps =
      String.ofList (s.toList.dropWhile (· = '/')) := by
    rw [ofText]
    cases hrest : s.toList.dropWhile (· = '/') with
    | nil => rfl
    | cons c rest =>
      have hpieces : ((segments (c :: rest)).map String.ofList).map String.toList =
          segments (c :: rest) := by
        rw [List.map_map]
        exact (List.map_congr_left fun _ _ => String.toList_ofList).trans (List.map_id' _)
      have hslash : "/".toList = ['/'] := rfl
      rw [← String.toList_inj, String.toList_intercalate, hpieces, hslash, intercalate_segments,
        String.toList_ofList]
  rw [text, hsteps]
  show String.ofList (List.replicate (s.toList.takeWhile (· = '/')).length '/') ++ _ = s
  rw [← hslashes, ← String.ofList_append, List.takeWhile_append_dropWhile, String.ofList_toList]

/-- A text without slashes is a name. -/
theorem ofText_of_not_mem {s : String} (hne : s ≠ "") (h : '/' ∉ s.toList) :
    ofText s = ⟨0, [s]⟩ := by
  cases hlist : s.toList with
  | nil => exact absurd (String.toList_inj.1 hlist) hne
  | cons c rest =>
    have hc : ¬ c = '/' := by
      rintro rfl
      exact h (hlist ▸ List.mem_cons_self)
    have hsegments : segments (c :: rest) = [c :: rest] := segments_of_not_mem (hlist ▸ h)
    simp only [ofText, hlist, List.takeWhile_cons, List.dropWhile_cons, hc, decide_false]
    rw [← String.ofList_toList (s := s), hlist]
    simp [hsegments]

/-! ## Plain paths -/

/-- Names that lead one level down each. -/
def LeadDown (names : List String) : Prop :=
  ∀ name ∈ names, name ≠ "" ∧ name ≠ "." ∧ name ≠ ".."

/-- Names that lead down do so as far as one goes. -/
theorem LeadDown.of_start {names others : List String} (h : LeadDown others)
    (hstart : names <+: others) : LeadDown names :=
  fun name hname => h name (hstart.subset hname)

section Plain

variable {names : List String} (h : LeadDown names)

include h

/-- There is nothing to be tidied about a path that leads down. -/
theorem tidy_of_leadDown (hne : names ≠ []) : tidy ⟨0, names⟩ = ⟨0, names⟩ := by
  have hfilter : names.filter (fun s => s ≠ "" ∧ s ≠ ".") = names := by
    refine List.filter_eq_self.2 fun name hname => ?_
    exact decide_eq_true ⟨(h name hname).1, (h name hname).2.1⟩
  simp only [tidy, hfilter]
  simp [hne]

/-- There are no slashes at the end of a path that leads down. -/
theorem trimmed_of_leadDown : trimmed ⟨0, names⟩ = ⟨0, names⟩ := by
  -- the last name is not empty, as no name is
  have hkept : names.reverse.dropWhile (· = "") = names.reverse := by
    cases hreverse : names.reverse with
    | nil => rfl
    | cons name rest =>
      have hname : name ∈ names := by
        rw [← List.mem_reverse, hreverse]
        exact List.mem_cons_self
      exact List.dropWhile_cons_of_neg (by simpa using (h name hname).1)
  rw [trimmed, hkept, List.reverse_reverse]

end Plain

/-- Without slashes before it a path is its names with slashes between them. -/
theorem text_relative (names : List String) :
    (⟨0, names⟩ : Path).text = String.intercalate "/" names := by
  simp [text]

/-- A path that goes on where another one ends has no shorter text. -/
theorem size_text_le {names others : List String} (h : names <+: others) :
    (⟨0, names⟩ : Path).text.utf8ByteSize ≤ (⟨0, others⟩ : Path).text.utf8ByteSize := by
  rw [text_relative, text_relative]
  -- along the names that both have
  induction names generalizing others with
  | nil => exact Nat.zero_le _
  | cons name names ih =>
    obtain ⟨more, rfl⟩ := h
    cases names with
    | nil =>
      cases more with
      | nil => exact Nat.le_refl _
      | cons next more =>
        rw [String.intercalate_singleton, List.singleton_append, String.intercalate_cons_cons,
          String.utf8ByteSize_append, String.utf8ByteSize_append]
        omega
    | cons next names =>
      have hrest := ih (List.prefix_append (next :: names) more)
      rw [List.cons_append] at hrest
      rw [List.cons_append, List.cons_append, String.intercalate_cons_cons,
        String.intercalate_cons_cons, String.utf8ByteSize_append, String.utf8ByteSize_append,
        String.utf8ByteSize_append, String.utf8ByteSize_append]
      omega

end Path

end JavaFragments
