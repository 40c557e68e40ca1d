import JavaFragments.Ini.Reader
import JavaFragments.Ini.Writer
import JavaFragments.Proofs.Text.Strip

/-! # What written lines are read as

A document is written as blank lines, comments, headers and options.  Names of sections that
are `Plain`, and names and values of options that are `Legible` together, are found in the lines
again:

* `ofChars_comment`   a comment
* `ofChars_header`, `content_header`   the header of a section
* `headerName?_eq_none_iff`            what starts with a bracket and is no header
* `ofChars_entry`, `content_entry`     an option with its value -/

namespace JavaFragments.Ini

open Text

/-- A section has a name that stands on one line. -/
structure PlainSectionName (name : String) : Prop where
  nonempty : name ≠ ""
  oneLine : '\n' ∉ name.toList

/-- An option has a name that is read as it is written. -/
structure PlainOptionName (name : String) : Prop where
  nonempty : name ≠ ""
  lowerCase : lower name = name
  stripped : strip name.toList = name.toList
  undelimited : '=' ∉ name.toList ∧ ':' ∉ name.toList
  oneLine : '\n' ∉ name.toList
  /-- It starts neither a comment nor a header. -/
  start : ∀ c, name.toList.head? = some c → c ≠ '#' ∧ c ≠ ';' ∧ c ≠ '['

/-- A value is a text on one line without white space around it. -/
def PlainValue (v : RawValue) : Prop :=
  ∃ s, v = .text s ∧ strip s.toList = s.toList ∧ '\n' ∉ s.toList

/-- An option has a name and a value on one line that is read as this option. -/
structure LegibleEntry (name : String) (value : List Char) : Prop where
  nonempty : name ≠ ""
  lowerCase : lower name = name
  stripped : strip name.toList = name.toList
  undelimited : '=' ∉ name.toList ∧ ':' ∉ name.toList
  oneLine : '\n' ∉ name.toList
  /-- It does not start a comment. -/
  comment : ∀ c, name.toList.head? = some c → c ≠ '#' ∧ c ≠ ';'
  /-- If it starts with a bracket, there is no other one that could end a header. -/
  header : name.toList.head? = some '[' → ']' ∉ name.toList.tail.tail ∧ ']' ∉ value
  strippedValue : strip value = value
  oneLineValue : '\n' ∉ value

/-- A plain name with a plain value is read as it is written. -/
theorem PlainOptionName.legible {name : String} (h : PlainOptionName name) {value : List Char}
    (hstrip : strip value = value) (hline : '\n' ∉ value) : LegibleEntry name value where
  nonempty := h.nonempty
  lowerCase := h.lowerCase
  stripped := h.stripped
  undelimited := h.undelimited
  oneLine := h.oneLine
  comment c hc := ⟨(h.start c hc).1, (h.start c hc).2.1⟩
  header hbracket := absurd rfl (h.start '[' hbracket).2.2
  strippedValue := hstrip
  oneLineValue := hline

/-! ## Comments and headers -/

/-- A line that starts with a hash is a comment. -/
theorem ofChars_comment (s : List Char) : Line.ofChars ('#' :: s) = .comment := by
  have hplain : isBlank '#' = false := by decide
  have hstrip : strip ('#' :: s) = '#' :: stripRight s := by
    rw [strip, stripLeft, List.dropWhile_cons_of_neg (by simp [hplain]), stripRight_cons hplain]
  rw [Line.ofChars, hstrip]
  rfl

/-- A text that does not start a comment is what stands on its line, from the first column. -/
private theorem ofChars_text {c : Char} {s t : List Char} (hplain : isBlank c = false)
    (hcomment : c ≠ '#' ∧ c ≠ ';') (ht : stripRight s = t) :
    Line.ofChars (c :: s) = .text 0 (c :: t) := by
  have hstrip : strip (c :: s) = c :: t := by
    rw [strip, stripLeft, List.dropWhile_cons_of_neg (by simp [hplain]), stripRight_cons hplain, ht]
  have hindent : (c :: s).takeWhile isBlank = [] := by
    rw [List.takeWhile_cons_of_neg (by simp [hplain])]
  rw [Line.ofChars, hstrip]
  simp only [hcomment.1, hcomment.2, or_self, if_false, hindent, List.length_nil]

/-- The line of a header. -/
theorem ofChars_header (name : List Char) :
    Line.ofChars ('[' :: (name ++ [']', '\n'])) = .text 0 ('[' :: (name ++ [']'])) := by
  apply ofChars_text (by decide) (by decide)
  exact stripRight_append_cons (by decide) name ['\n']

/-- The name in a header. -/
theorem content_header {name : List Char} (h : name ≠ []) :
    Content.ofChars ('[' :: (name ++ [']'])) = .header name := by
  -- a name may hold brackets; the last one ends the header
  obtain ⟨c, s, hs⟩ := List.exists_cons_of_ne_nil (mt List.reverse_eq_nil_iff.1 h)
  have hname : headerName? ('[' :: (name ++ [']'])) = some name := by
    have hreverse : (name ++ [']']).reverse = ']' :: c :: s := by
      rw [List.reverse_append, hs]
      rfl
    have hdrop : (']' :: c :: s).dropWhile (· ≠ ']') = ']' :: c :: s :=
      List.dropWhile_cons_of_neg (by simp)
    simp only [headerName?, hreverse, hdrop]
    rw [← hs, List.reverse_reverse]
  rw [Content.ofChars, hname]

/-- What starts with a bracket is a header if another bracket ends it, with something between
    them. -/
theorem headerName?_eq_none_iff {s : List Char} : headerName? ('[' :: s) = none ↔ ']' ∉ s.tail := by
  -- without a closing bracket there is no header anyway
  by_cases hmem : ']' ∈ s.reverse
  · -- what stands before the last bracket
    obtain ⟨after, before, hs, hafter⟩ := List.eq_append_cons_of_mem hmem
    have hdrop : s.reverse.dropWhile (· ≠ ']') = ']' :: before := by
      have hpos : ∀ c ∈ after, decide (c ≠ ']') = true := by
        intro c hc
        rw [decide_eq_true_iff]
        rintro rfl
        exact hafter hc
      rw [hs, List.dropWhile_append_of_pos hpos, List.dropWhile_cons_of_neg (by simp)]
    have hwhole : s = before.reverse ++ ']' :: after.reverse := by
      rw [← List.reverse_reverse s, hs]
      simp
    simp only [headerName?, hdrop]
    cases before with
    | nil => simpa [hwhole] using hafter
    | cons c before =>
      have hne : (c :: before).reverse ≠ [] := by simp
      have htail : ']' ∈ s.tail := by
        rw [hwhole, List.tail_append_of_ne_nil hne]
        exact List.mem_append_right _ List.mem_cons_self
      simpa using htail
  · have hdrop : s.reverse.dropWhile (· ≠ ']') = [] := by
      have hpos : ∀ c ∈ s.reverse, decide (c ≠ ']') = true := by
        intro c hc
        rw [decide_eq_true_iff]
        rintro rfl
        exact hmem hc
      rw [← List.append_nil s.reverse, List.dropWhile_append_of_pos hpos, List.dropWhile_nil]
    have htail : ']' ∉ s.tail := fun h => hmem (List.mem_reverse.2 (List.mem_of_mem_tail h))
    simp only [headerName?, hdrop]
    simpa using htail

/-- What comes behind the first character of two texts. -/
private theorem mem_tail_append {c : Char} {s t : List Char} (hc : c ∈ (s ++ t).tail) :
    c ∈ s.tail ∨ c ∈ t := by
  cases s with
  | nil => exact .inr (List.mem_of_mem_tail hc)
  | cons d s => exact List.mem_append.1 hc

/-! ## Options -/

section Options

variable {name : String} {value : List Char} (h : LegibleEntry name value)

include h

/-- The name of an option starts with a character that is no white space and starts no comment. -/
theorem LegibleEntry.exists_cons :
    ∃ c s, name.toList = c :: s ∧ isBlank c = false ∧ c ≠ '#' ∧ c ≠ ';' := by
  have hne : name.toList ≠ [] := fun e => h.nonempty (String.toList_inj.1 e)
  obtain ⟨c, s, hs⟩ := List.exists_cons_of_ne_nil hne
  have hplain : StartsPlain name.toList :=
    startsPlain_of_stripLeft (stripLeft_and_stripRight_of_strip h.stripped).1
  have hhead : name.toList.head? = some c := by rw [hs]; rfl
  exact ⟨c, s, hs, hplain c hhead, h.comment c hhead⟩

omit h

/-- A blank or nothing. -/
def padding (spaces : Bool) : List Char := if spaces then [' '] else []

/-- The sign of equality, with or without blanks around it. -/
theorem toList_delimiter (spaces : Bool) :
    (delimiter spaces).toList = padding spaces ++ '=' :: padding spaces := by
  cases spaces <;> rfl

/-- What stands around the sign is white space. -/
private theorem isBlank_of_mem_padding {spaces : Bool} :
    ∀ c ∈ padding spaces, isBlank c = true := by
  apply List.all_eq_true.1
  cases spaces <;> decide

/-- So is what ends a line. -/
theorem isBlank_newline : ∀ c ∈ ['\n'], isBlank c = true := List.all_eq_true.1 (by decide)

include h

/-- The line of an option. -/
theorem ofChars_entry (spaces : Bool) :
    Line.ofChars (name.toList ++ padding spaces ++ '=' :: (padding spaces ++ value ++ ['\n'])) =
      .text 0 (name.toList ++ padding spaces ++ '=' :: stripRight (padding spaces ++ value)) := by
  obtain ⟨c, s, hs, hplain, hcomment⟩ := h.exists_cons
  have hright : stripRight (s ++ padding spaces ++ '=' :: (padding spaces ++ value ++ ['\n'])) =
      s ++ padding spaces ++ '=' :: stripRight (padding spaces ++ value) := by
    rw [stripRight_append_cons (by decide), stripRight_append isBlank_newline]
  rw [hs]
  exact ofChars_text hplain hcomment hright

/-- The line of an option is no header. -/
private theorem headerName?_entry (spaces : Bool) : headerName? (name.toList ++ padding spaces ++
    '=' :: stripRight (padding spaces ++ value)) = none := by
  obtain ⟨c, s, hs, -⟩ := h.exists_cons
  rw [hs, List.append_assoc, List.cons_append]
  by_cases hbracket : c = '['
  · subst hbracket
    have htail : s = name.toList.tail := by rw [hs, List.tail_cons]
    obtain ⟨hname, hvalue⟩ := h.header (by rw [hs, List.head?_cons])
    -- there is no closing bracket in the value either
    have hrest : ']' ∉ padding spaces ++ '=' :: stripRight (padding spaces ++ value) := by
      have hpadding : ']' ∉ padding spaces := by cases spaces <;> decide
      have hstrip : ']' ∉ stripRight (padding spaces ++ value) := by
        intro hmem
        rcases List.mem_append.1 (mem_of_mem_stripRight hmem) with hmem | hmem
        · exact hpadding hmem
        · exact hvalue hmem
      simp [hpadding, hstrip]
    rw [headerName?_eq_none_iff]
    intro hmem
    rcases mem_tail_append hmem with hmem | hmem
    · exact hname (htail ▸ hmem)
    · exact hrest hmem
  · -- a line is a header only if it starts with a bracket
    unfold headerName?
    split
    · rename_i heq
      exact absurd (List.cons.inj heq).1 hbracket
    · rfl

/-- The name and the value of an option. -/
theorem content_entry (spaces : Bool) :
    Content.ofChars (name.toList ++ padding spaces ++ '=' :: stripRight (padding spaces ++ value)) =
      .entry name.toList value := by
  have hpadding : ∀ d ∈ padding spaces, (!isDelimiter d) = true := by
    apply List.all_eq_true.1
    cases spaces <;> decide
  -- nothing before the sign of equality separates
  have hbefore : ∀ d ∈ name.toList ++ padding spaces, (!isDelimiter d) = true := by
    intro d hd
    rcases List.mem_append.1 hd with hd | hd
    · have hequals : d ≠ '=' := fun e => h.undelimited.1 (e ▸ hd)
      have hcolon : d ≠ ':' := fun e => h.undelimited.2 (e ▸ hd)
      simp [isDelimiter, hequals, hcolon]
    · exact hpadding d hd
  have htake : (name.toList ++ padding spaces ++
      '=' :: stripRight (padding spaces ++ value)).takeWhile (!isDelimiter ·) =
        name.toList ++ padding spaces := by
    rw [List.takeWhile_append_of_pos hbefore, List.takeWhile_cons_of_neg (by decide),
      List.append_nil]
  have hdrop : (name.toList ++ padding spaces ++
      '=' :: stripRight (padding spaces ++ value)).dropWhile (!isDelimiter ·) =
        '=' :: stripRight (padding spaces ++ value) := by
    rw [List.dropWhile_append_of_pos hbefore, List.dropWhile_cons_of_neg (by decide)]
  -- the blanks around the sign belong to neither the name nor the value
  have hname : stripRight (name.toList ++ padding spaces) = name.toList := by
    rw [stripRight_append isBlank_of_mem_padding]
    exact (stripLeft_and_stripRight_of_strip h.stripped).2
  have hentry : entry? (name.toList ++ padding spaces ++
      '=' :: stripRight (padding spaces ++ value)) = some (name.toList, value) := by
    unfold entry?
    rw [hdrop]
    simp only [htake, hname, strip_stripRight]
    rw [append_strip isBlank_of_mem_padding, h.strippedValue]
  rw [Content.ofChars, headerName?_entry h]
  simp only [hentry]

end Options

end JavaFragments.Ini
