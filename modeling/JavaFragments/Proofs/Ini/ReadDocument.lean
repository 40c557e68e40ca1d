import JavaFragments.Proofs.Ini.LineEffect
import JavaFragments.Proofs.Ini.WrittenLine
import JavaFragments.Proofs.Text.LowerCase

/-! # What a document that was read consists of

The header of a section has a name that can stand in a header again, and the line of an option
has a name and a value that are `LegibleEntry`: lower-casing the name brings about nothing that a
reader could take for anything else.  The lines that go on with a value have no white space around
them:

* `legible_of_content`   the line of an option
* `every_of_readText`    all options of a document that was read
* `legible_of_settle`    a value that is left with one line is that of the first one -/

namespace JavaFragments.Ini

open Text

/-! ## Lines -/

/-- What stands on a line that is neither blank nor a comment. -/
theorem ofChars_eq_text {line content : List Char} {indent : Nat}
    (h : Line.ofChars line = .text indent content) :
    content = strip line ∧ indent = (line.takeWhile isBlank).length ∧
      ∃ c s, content = c :: s ∧ c ≠ '#' ∧ c ≠ ';' := by
  unfold Line.ofChars at h
  cases hstrip : strip line with
  | nil =>
    rw [hstrip] at h
    exact nomatch h
  | cons c s =>
    simp only [hstrip] at h
    split at h
    · exact nomatch h
    · -- a comment is told by the first character that is left
      rename_i hcomment
      obtain ⟨rfl, rfl⟩ := Line.text.inj h
      exact ⟨rfl, rfl, c, s, rfl, fun hc => hcomment (.inl hc), fun hc => hcomment (.inr hc)⟩

/-- What stands on a line of a text has no white space around it and no line feed in it. -/
theorem stripped_of_mem_splitLines {text line content : List Char} {indent : Nat}
    (hmem : line ∈ splitLines text) (h : Line.ofChars line = .text indent content) :
    strip content = content ∧ '\n' ∉ content := by
  obtain ⟨rfl, -, -⟩ := ofChars_eq_text h
  refine ⟨strip_strip line, fun hnewline => ?_⟩
  obtain ⟨s, hs, rfl | rfl⟩ := exists_of_mem_splitLines hmem
  · exact hs (mem_of_mem_strip hnewline)
  · rw [strip_append isBlank_newline] at hnewline
    exact hs (mem_of_mem_strip hnewline)

/-- A header is read off the content of its line. -/
private theorem content_eq_header {content name : List Char}
    (h : Content.ofChars content = .header name) : headerName? content = some name := by
  unfold Content.ofChars at h
  cases hheader : headerName? content with
  | some n =>
    rw [hheader] at h
    exact congrArg some (Content.header.inj h)
  | none =>
    simp only [hheader] at h
    split at h <;> exact nomatch h

/-- The name in a header is not empty and stands in the line. -/
private theorem headerName?_eq_some {s name : List Char} (h : headerName? s = some name) :
    name ≠ [] ∧ ∀ c ∈ name, c ∈ s := by
  unfold headerName? at h
  split at h
  · rename_i t
    split at h
    · rename_i last c before hdrop
      obtain rfl := Option.some.inj h
      refine ⟨by simp, fun d hd => List.mem_cons_of_mem _ (List.mem_reverse.1 ?_)⟩
      -- the name is what stands before the last bracket, so it is a part of the line
      have hsuffix : last :: c :: before <:+ t.reverse := hdrop ▸ List.dropWhile_suffix _
      exact hsuffix.subset (List.mem_cons_of_mem last (List.mem_reverse.1 hd))
    · exact nomatch h
  · exact nomatch h

/-- The parts of the line of an option. -/
theorem content_eq_entry {content name value : List Char}
    (h : Content.ofChars content = .entry name value) :
    headerName? content = none ∧ ∃ before d after, content = before ++ d :: after ∧
      (∀ c ∈ before, isDelimiter c = false) ∧ name = stripRight before ∧ value = strip after := by
  unfold Content.ofChars at h
  cases hheader : headerName? content with
  | some n =>
    rw [hheader] at h
    exact nomatch h
  | none =>
    simp only [hheader] at h
    unfold entry? at h
    cases hdrop : content.dropWhile (!isDelimiter ·) with
    | nil =>
      simp only [hdrop] at h
      exact nomatch h
    | cons d after =>
      simp only [hdrop] at h
      obtain ⟨hname, hvalue⟩ := Content.entry.inj h
      -- the name ends at the first delimiter, so none stands in it
      refine ⟨rfl, _, d, after, ?_, fun c hc => ?_, hname.symm, hvalue.symm⟩
      · rw [← hdrop, List.takeWhile_append_dropWhile]
      · simpa using List.all_eq_true.1 List.all_takeWhile c hc

/-! ## Options -/

/-- What comes behind the first character of a text comes behind it in a longer one. -/
private theorem mem_tail_append_left {c : Char} {s t : List Char} (h : c ∈ s.tail) :
    c ∈ (s ++ t).tail := by
  cases s with
  | nil => exact nomatch h
  | cons d s => exact List.mem_append_left t h

/-- What comes behind a character of a text comes behind the first one. -/
private theorem mem_tail_append_cons {c d : Char} {s t : List Char} (h : c ∈ t) :
    c ∈ (s ++ d :: t).tail := by
  cases s with
  | nil => exact h
  | cons e s => exact List.mem_append_right s (List.mem_cons_of_mem d h)

/-- The line of an option has a name that is read again in lower case, with its value. -/
theorem legible_of_content {content name value : List Char} (hstrip : strip content = content)
    (hline : '\n' ∉ content) (hcomment : ∀ c, content.head? = some c → c ≠ '#' ∧ c ≠ ';')
    (h : Content.ofChars content = .entry name value) (hname : name ≠ []) :
    LegibleEntry (lower (String.ofList name)) value := by
  obtain ⟨hheader, before, d, after, rfl, hbefore, rfl, rfl⟩ := content_eq_entry h
  -- the name as it is written starts the line
  obtain ⟨u, hu⟩ := isPrefix_stripRight before
  have hlower : (lower (String.ofList (stripRight before))).toList =
      lowerFrom false (stripRight before) := by
    rw [lower, String.toList_ofList, String.toList_ofList]
  have hhead : ∀ c, (stripRight before).head? = some c →
      (before ++ d :: after).head? = some c := by
    intro c hc
    rw [← hu, List.append_assoc, List.head?_append_of_ne_nil _ hname, hc]
  -- a character that lower-casing brings about nowhere stood in the name before
  have hkept : ∀ c, ¬ Lowered c → c ∈ lowerFrom false (stripRight before) → c ∈ before :=
    fun c hc hmem => mem_of_mem_stripRight ((mem_lowerFrom hmem).resolve_right hc)
  exact {
    nonempty := by
      intro hempty
      rw [← String.toList_inj, hlower] at hempty
      exact hname (lowerFrom_eq_nil_iff.1 hempty)
    lowerCase := lower_lower _
    stripped := by
      rw [hlower]
      refine strip_lowerFrom (strip_eq_self_iff.2 ⟨fun c hc => ?_, ?_⟩)
      · exact (strip_eq_self_iff.1 hstrip).1 c (hhead c hc)
      · exact stripRight_eq_self_iff.1 (stripRight_stripRight before)
    undelimited := by
      rw [hlower]
      constructor <;> intro hmem
      · exact absurd (hbefore '=' (hkept '=' (by decide) hmem)) (by decide)
      · exact absurd (hbefore ':' (hkept ':' (by decide) hmem)) (by decide)
    oneLine := by
      rw [hlower]
      exact fun hmem => hline (List.mem_append_left _ (hkept '\n' (by decide) hmem))
    comment := by
      intro c hc
      rw [hlower] at hc
      rcases head?_lowerFrom hc with hc | hc
      · exact hcomment c (hhead c hc)
      · constructor <;> rintro rfl <;> exact absurd hc (by decide)
    header := by
      intro hbracket
      rw [hlower] at hbracket ⊢
      obtain ⟨n, hn⟩ : ∃ n, stripRight before = '[' :: n :=
        List.head?_eq_some_iff.1 ((head?_lowerFrom hbracket).resolve_right (by decide))
      obtain rfl : '[' :: (n ++ u) = before := by rw [← hu, hn, List.cons_append]
      rw [List.cons_append, headerName?_eq_none_iff] at hheader
      rw [hn]
      refine ⟨fun hmem => hheader ?_, fun hmem => hheader ?_⟩
      · -- the bracket itself is kept, so what comes behind it comes of what came behind it
        obtain ⟨b, hb⟩ : ∃ b, lowerFrom false ('[' :: n) = '[' :: lowerFrom b n := ⟨_, rfl⟩
        rw [hb, List.tail_cons] at hmem
        have hn' := (mem_tail_lowerFrom hmem).resolve_right (by decide)
        exact mem_tail_append_left (mem_tail_append_left hn')
      · exact mem_tail_append_cons (mem_of_mem_strip hmem)
    strippedValue := strip_strip after
    oneLineValue := fun hmem =>
      hline (List.mem_append_right _ (List.mem_cons_of_mem d (mem_of_mem_strip hmem))) }

/-- An option as it is read: the first line of its value comes from the line of the option, the
    others from lines that go on with it. -/
def ReadOption (name : String) (v : RawValue) : Prop :=
  ∃ first more, v = .lines (first :: more) ∧ LegibleEntry name first.toList ∧
    ∀ line ∈ more, strip line.toList = line.toList ∧ '\n' ∉ line.toList

/-- An option goes on with a line that has no white space around it. -/
theorem ReadOption.extend {name line : String} {v : RawValue} (h : ReadOption name v)
    (hstrip : strip line.toList = line.toList) (hline : '\n' ∉ line.toList) :
    ReadOption name (v.extend line) := by
  obtain ⟨first, more, rfl, hfirst, hmore⟩ := h
  refine ⟨first, more ++ [line], rfl, hfirst, fun l hl => ?_⟩
  rcases List.mem_append.1 hl with hl | hl
  · exact hmore l hl
  · obtain rfl := List.mem_singleton.1 hl
    exact ⟨hstrip, hline⟩

/-! ## Documents -/

/-- The sections and options of a document that was read. -/
theorem every_of_readText {text : String} {d : Document}
    (h : Document.empty.readText text = (.ok (), d)) :
    d.Every PlainSectionName fun name v => ∃ w, ReadOption name w ∧ w.settle = v := by
  have hsteps : ∀ p : Progress, ∀ line ∈ splitLines text.toList, ∀ d,
      p.document.Every PlainSectionName ReadOption → p.Effect line d →
        d.Every PlainSectionName ReadOption := by
    intro p line hmem d
    -- a line starts a section, adds an empty line, goes on with a value, or starts an option
    refine every_of_effect (fun _ content name hline hcontent => ?_)
      (fun _ v hv => hv.extend rfl List.not_mem_nil) (fun _ content hline _ _ v hv => ?_)
      fun _ content name value hline hcontent hname => ?_
    · -- a header: its name is not empty, and a part of a line of the text
      obtain ⟨hne, hsub⟩ := headerName?_eq_some (content_eq_header hcontent)
      refine ⟨fun hempty => hne ?_, fun hnewline => ?_⟩
      · rwa [← String.toList_inj, String.toList_ofList] at hempty
      · rw [String.toList_ofList] at hnewline
        exact (stripped_of_mem_splitLines hmem hline).2 (hsub _ hnewline)
    · -- one more line of a value: it was stripped
      rw [← String.toList_ofList (l := content)] at hline
      obtain ⟨hstrip, hnewline⟩ := stripped_of_mem_splitLines hmem hline
      exact hv.extend hstrip hnewline
    · -- a new option: its value has one line so far
      obtain ⟨hstrip, hnewline⟩ := stripped_of_mem_splitLines hmem hline
      obtain ⟨-, -, c, s, hc, hcomment⟩ := ofChars_eq_text hline
      have hhead : ∀ d, content.head? = some d → d ≠ '#' ∧ d ≠ ';' := by
        intro d hd
        rw [hc] at hd
        exact Option.some.inj hd ▸ hcomment
      refine ⟨String.ofList value, [], rfl, ?_, nofun⟩
      rw [String.toList_ofList]
      exact legible_of_content hstrip hnewline hhead hcontent hname
  obtain ⟨e, he, rfl⟩ := exists_of_readText hsteps Document.every_empty h
  exact (he.mono (fun _ hname => hname) fun _ v hv => ⟨v, hv, rfl⟩).settle

/-! ## Values on one line -/

/-- The lines of a value, one behind the other. -/
theorem toList_intercalate (first : String) (more : List String) :
    (String.intercalate "\n" (first :: more)).toList =
      first.toList ++ more.flatMap fun line => '\n' :: line.toList := by
  -- on the lines behind the first one
  induction more generalizing first with
  | nil => rw [String.intercalate_singleton, List.flatMap_nil, List.append_nil]
  | cons line more ih =>
    rw [String.intercalate_cons_cons, String.toList_append, String.toList_append, ih,
      List.flatMap_cons, List.append_assoc]
    rfl

/-- White space at the end is all that is stripped, so what is left up to a line feed is what stood
    before it. -/
private theorem stripRight_eq_of_not_mem {s t : List Char} (hs : stripRight s = s)
    (h : '\n' ∉ stripRight (s ++ '\n' :: t)) : stripRight (s ++ '\n' :: t) = s := by
  obtain ⟨u, hu, hwhole⟩ := exists_stripRight_append (s ++ '\n' :: t)
  have hkept := stripRight_stripRight (s ++ '\n' :: t)
  generalize stripRight (s ++ '\n' :: t) = kept at *
  rcases List.append_eq_append_iff.1 hwhole with ⟨v, rfl, hv⟩ | ⟨v, rfl, rfl⟩
  · -- the line feed would be in what is left
    cases v with
    | nil => exact List.append_nil s
    | cons c v =>
      obtain ⟨rfl, -⟩ := List.cons.inj hv
      exact absurd (List.mem_append_right s List.mem_cons_self) h
  · -- what was stripped goes over the line feed, so it takes what is blank before it as well
    have hv : ∀ c ∈ v, isBlank c = true := fun c hc => hu c (List.mem_append_left _ hc)
    rw [← hs, stripRight_append hv, hkept]

/-- Where a value has one line only, this is the line of the option. -/
theorem legible_of_settle {name s : String} {w : RawValue} (hw : ReadOption name w)
    (hsettle : w.settle = .text s) (hline : '\n' ∉ s.toList) : LegibleEntry name s.toList := by
  obtain ⟨first, more, rfl, hfirst, -⟩ := hw
  have hkept : stripRight first.toList = first.toList :=
    (stripLeft_and_stripRight_of_strip hfirst.strippedValue).2
  obtain rfl := RawValue.text.inj hsettle
  rw [String.toList_ofList, toList_intercalate] at hline ⊢
  cases more with
  | nil => rwa [List.flatMap_nil, List.append_nil, hkept]
  | cons line more =>
    rw [List.flatMap_cons, List.cons_append] at hline ⊢
    -- the lines behind the first one were all white space
    rwa [stripRight_eq_of_not_mem hkept hline]

end JavaFragments.Ini
