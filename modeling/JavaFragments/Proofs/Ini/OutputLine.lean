import JavaFragments.Proofs.Ini.SecondReading

/-! # The lines of a written document

A document with help is written line by line.  `Annotated.lines` tells the lines by what they are,
so that it can be said what stands in a section and what stands above an option:

* `toList_write`         the text is that of its lines
* `splitLines_write`     its lines are the lines of the text if none of them has a line feed in it
* `sectionLines_lines`   the lines of a section are those of its options
* `showsHelp_iff`        an option has a comment above it if help is recorded for it as it is stored -/

namespace JavaFragments.Ini

open Text

/-- A line of a written document. -/
inductive OutputLine
  | blank
  | header (name : String)
  | comment (help : String)
  | option (name : String) (value : RawValue)
  | rule
deriving DecidableEq

/-- The characters of a line, without its line feed. -/
def OutputLine.chars (spaces : Bool) : OutputLine → List Char
  | blank => []
  | header name => '[' :: (name.toList ++ [']'])
  | comment help => '#' :: ' ' :: help.toList
  | option name value => name.toList ++ (delimiter spaces).toList ++ value.written.toList
  | rule => '#' :: List.replicate 40 '-'

/-- The lines of an option. -/
def entryLines (help? : Option String) (name : String) (value : RawValue) : List OutputLine :=
  match help? with
  | some help => [.blank, .comment help, .option name value]
  | none => [.option name value]

/-- An option without help has one line. -/
private theorem entryLines_none (name : String) (value : RawValue) :
    entryLines none name value = [.option name value] := rfl

/-- Help comes above it, behind a blank line. -/
private theorem entryLines_some (help name : String) (value : RawValue) :
    entryLines (some help) name value = [.blank, .comment help, .option name value] := rfl

/-- The lines of a table. -/
def tableLines (help : HelpTable) (name : String) (t : Table) : List OutputLine :=
  .blank :: .header name ::
    ((t.entries.flatMap fun e => entryLines (help.get? e.1) e.1 e.2) ++ [.rule, .blank])

namespace Annotated

/-- The help for the options of a section. -/
def helpOf (a : Annotated) (name : String) : HelpTable := (a.help.get? name).getD .empty

/-- The lines of the text of a document. -/
def lines (a : Annotated) : List OutputLine :=
  (if a.document.defaults.isEmpty then []
    else tableLines (a.helpOf defaultsName) defaultsName a.document.defaults) ++
  a.document.sections.entries.flatMap fun e => tableLines (a.helpOf e.1) e.1 e.2

end Annotated

/-! ## Lines and text -/

/-- The characters of lines, each with its line feed. -/
def lineChars (spaces : Bool) (ls : List OutputLine) : List Char :=
  ls.flatMap fun l => l.chars spaces ++ ['\n']

/-- Lines come one behind the other. -/
private theorem lineChars_append (spaces : Bool) (ls ls' : List OutputLine) :
    lineChars spaces (ls ++ ls') = lineChars spaces ls ++ lineChars spaces ls' :=
  List.flatMap_append

/-- So do groups of lines. -/
private theorem lineChars_flatMap {α : Type} (spaces : Bool) (f : α → List OutputLine)
    (as : List α) :
    lineChars spaces (as.flatMap f) = as.flatMap fun a => lineChars spaces (f a) :=
  List.flatMap_assoc

/-- The lines of an option are its text. -/
private theorem lineChars_entryLines (spaces : Bool) (help? : Option String) (name : String)
    (value : RawValue) : lineChars spaces (entryLines help? name value) =
      (entryText (delimiter spaces) help? name value).toList := by
  cases help? <;> simp [lineChars, entryLines, entryText, OutputLine.chars, toString_string]

/-- The lines of a table are its text. -/
private theorem lineChars_tableLines (spaces : Bool) (help : HelpTable) (name : String)
    (t : Table) :
    lineChars spaces (tableLines help name t) =
      (tableText (delimiter spaces) help name t).toList := by
  have hentries := lineChars_flatMap spaces (fun e : String × RawValue =>
    entryLines (help.get? e.1) e.1 e.2) t.entries
  simp only [lineChars_entryLines] at hentries
  rw [toList_tableText, ← hentries]
  simp [tableLines, lineChars, OutputLine.chars]

/-- The text of a document is that of its lines. -/
theorem toList_write (a : Annotated) (spaces : Bool) :
    (a.write spaces).toList = lineChars spaces a.lines := by
  have hsections := lineChars_flatMap spaces (fun e : String × Table =>
    tableLines (a.helpOf e.1) e.1 e.2) a.document.sections.entries
  simp only [lineChars_tableLines] at hsections
  rw [Annotated.lines, lineChars_append, hsections]
  -- defaults that are empty have no lines and no text
  by_cases hempty : a.document.defaults.isEmpty
  · simp [Annotated.write, documentText, Annotated.helpOf, hempty, String.toList_join,
      List.flatMap_map, lineChars]
  · simp [Annotated.write, documentText, Annotated.helpOf, hempty, String.toList_join,
      List.flatMap_map, lineChars_tableLines]

/-- The lines are those of the text if there is no line feed in them. -/
private theorem splitLines_lineChars {spaces : Bool} {ls : List OutputLine}
    (h : ∀ l ∈ ls, '\n' ∉ l.chars spaces) :
    splitLines (lineChars spaces ls) = ls.map fun l => l.chars spaces ++ ['\n'] := by
  -- on the lines; the first one ends at its line feed
  induction ls with
  | nil => rfl
  | cons l ls ih =>
    have hl := h l List.mem_cons_self
    rw [lineChars, List.flatMap_cons, List.append_assoc, List.singleton_append, splitLines_line hl,
      List.map_cons]
    exact congrArg _ (ih fun l' hl' => h l' (List.mem_cons_of_mem l hl'))

/-- No line feed is in a line of an option if none is in what it is made of. -/
private theorem lineFeed_entryLines {spaces : Bool} {help? : Option String} {name : String}
    {value : RawValue} (hhelp : ∀ help, help? = some help → '\n' ∉ help.toList)
    (hname : '\n' ∉ name.toList) (hvalue : value.OnOneLine) {l : OutputLine}
    (h : l ∈ entryLines help? name value) : '\n' ∉ l.chars spaces := by
  have hoption : '\n' ∉ (OutputLine.option name value).chars spaces := by
    have hdelimiter : '\n' ∉ (delimiter spaces).toList := by cases spaces <;> decide
    cases value with
    | text s =>
      have hs : '\n' ∉ s.toList := hvalue
      simp [OutputLine.chars, RawValue.written, hname, hdelimiter, hs]
    | lines ls => exact hvalue.elim
  -- the blank line, the comment and the option itself
  cases help? with
  | none => exact List.mem_singleton.1 h ▸ hoption
  | some help =>
    rw [entryLines_some, List.mem_cons, List.mem_cons, List.mem_singleton] at h
    rcases h with rfl | rfl | rfl
    · exact List.not_mem_nil
    · simpa [OutputLine.chars] using hhelp help rfl
    · exact hoption

/-- Neither is one in a line of a table. -/
private theorem lineFeed_tableLines {spaces : Bool} {help : HelpTable} {name : String} {t : Table}
    (hhelp : ∀ option text, help.get? option = some text → '\n' ∉ text.toList)
    (hname : '\n' ∉ name.toList) (ht : ∀ e ∈ t.entries, '\n' ∉ e.1.toList ∧ e.2.OnOneLine)
    {l : OutputLine} (h : l ∈ tableLines help name t) : '\n' ∉ l.chars spaces := by
  simp only [tableLines, List.mem_cons, List.mem_append, List.mem_flatMap, List.not_mem_nil,
    or_false] at h
  -- blank line, header, options, rule, blank line
  rcases h with rfl | rfl | ⟨e, he, hl⟩ | rfl | rfl
  · exact List.not_mem_nil
  · simpa [OutputLine.chars] using hname
  · exact lineFeed_entryLines (hhelp e.1) (ht e he).1 (ht e he).2 hl
  · show '\n' ∉ '#' :: List.replicate 40 '-'
    decide
  · exact List.not_mem_nil

/-- The lines of a document are those of its text if no name, value or help has a line feed in it. -/
theorem splitLines_write {a : Annotated}
    (hoptions : a.document.Every (fun name => '\n' ∉ name.toList) fun option v =>
      '\n' ∉ option.toList ∧ v.OnOneLine)
    (hhelp : ∀ name option text, (a.helpOf name).get? option = some text → '\n' ∉ text.toList)
    (spaces : Bool) :
    splitLines (a.write spaces).toList = a.lines.map fun l => l.chars spaces ++ ['\n'] := by
  rw [toList_write]
  apply splitLines_lineChars
  intro l hl
  -- a line is one of the defaults or of a section
  rcases List.mem_append.1 hl with hl | hl
  · split at hl
    · cases hl
    · exact lineFeed_tableLines (hhelp defaultsName) (by decide) hoptions.defaults hl
  · obtain ⟨e, he, hl⟩ := List.mem_flatMap.1 hl
    exact lineFeed_tableLines (hhelp e.1) (hoptions.names e he) (hoptions.sections e he) hl

/-! ## Sections -/

/-- The lines of a section: from its header to the next rule. -/
def sectionLines (name : String) (ls : List OutputLine) : List OutputLine :=
  (ls.dropWhile (· ≠ .header name)).tail.takeWhile (· ≠ .rule)

/-- The lines of options are neither rules nor headers. -/
private theorem ne_of_mem_entryLines {help? : Option String} {name : String} {value : RawValue}
    {l : OutputLine} (h : l ∈ entryLines help? name value) :
    l ≠ .rule ∧ ∀ other, l ≠ .header other := by
  cases help? with
  | none => simp_all [entryLines]
  | some help =>
    simp only [entryLines, List.mem_cons, List.not_mem_nil, or_false] at h
    rcases h with rfl | rfl | rfl <;> simp

/-- The only header in a table is its own. -/
private theorem ne_header_of_mem_tableLines {help : HelpTable} {name other : String} {t : Table}
    (hne : name ≠ other) {l : OutputLine} (h : l ∈ tableLines help name t) : l ≠ .header other := by
  simp only [tableLines, List.mem_cons, List.mem_append, List.mem_flatMap, List.not_mem_nil,
    or_false] at h
  rcases h with rfl | rfl | ⟨e, -, hl⟩ | rfl | rfl
  · simp
  · simpa using hne
  · exact (ne_of_mem_entryLines hl).2 other
  · simp
  · simp

/-- The lines of a section are found behind lines without its header. -/
private theorem sectionLines_append {name : String} {before : List OutputLine}
    (h : ∀ l ∈ before, l ≠ .header name) (ls : List OutputLine) :
    sectionLines name (before ++ ls) = sectionLines name ls := by
  rw [sectionLines, List.dropWhile_append_of_pos fun l hl => decide_eq_true (h l hl), sectionLines]

/-- They end where its table ends. -/
private theorem sectionLines_tableLines (help : HelpTable) (name : String) (t : Table)
    (ls : List OutputLine) : sectionLines name (tableLines help name t ++ ls) =
      t.entries.flatMap fun e => entryLines (help.get? e.1) e.1 e.2 := by
  -- no line before the rule is a rule
  have hrule : ∀ l ∈ t.entries.flatMap (fun e => entryLines (help.get? e.1) e.1 e.2),
      decide (l ≠ .rule) = true := by
    intro l hl
    obtain ⟨e, -, hl⟩ := List.mem_flatMap.1 hl
    exact decide_eq_true (ne_of_mem_entryLines hl).1
  have hdrop : (tableLines help name t ++ ls).dropWhile (· ≠ .header name) =
      .header name :: ((t.entries.flatMap fun e => entryLines (help.get? e.1) e.1 e.2) ++
        .rule :: .blank :: ls) := by
    rw [tableLines, List.cons_append, List.dropWhile_cons_of_pos (by simp), List.cons_append,
      List.dropWhile_cons_of_neg (by simp), List.append_assoc]
    rfl
  rw [sectionLines, hdrop, List.tail_cons, List.takeWhile_append_of_pos hrule,
    List.takeWhile_cons_of_neg (by simp), List.append_nil]

namespace Annotated

variable {a : Annotated}

/-- The lines of a section are those of its options. -/
theorem sectionLines_lines (h : a.document.Unreserved) {name : String} {t : Table}
    (ht : a.document.sections.get? name = some t) :
    sectionLines name a.lines =
      t.entries.flatMap fun e => entryLines ((a.helpOf name).get? e.1) e.1 e.2 := by
  have hmem := OrderedMap.mem_entries_of_get? ht
  have hname : name ≠ defaultsName := by
    rintro rfl
    exact h (List.mem_map_of_mem hmem)
  -- the tables before that of the section, and those behind it
  obtain ⟨es, es', hes⟩ := List.append_of_mem hmem
  -- no table before that of the section has its name
  have hfirst : ∀ e ∈ es, e.1 ≠ name := by
    have hnodup := a.document.sections.nodup
    rw [hes, List.map_append, List.map_cons] at hnodup
    intro e he heq
    exact (List.nodup_append.1 hnodup).2.2 e.1 (List.mem_map_of_mem he) name List.mem_cons_self heq
  have hdefaults : ∀ l ∈ (if a.document.defaults.isEmpty then []
      else tableLines (a.helpOf defaultsName) defaultsName a.document.defaults),
      l ≠ .header name := by
    intro l hl
    split at hl
    · cases hl
    · exact ne_header_of_mem_tableLines hname.symm hl
  -- none of them has its header
  have hbefore : ∀ l ∈ es.flatMap (fun e => tableLines (a.helpOf e.1) e.1 e.2),
      l ≠ .header name := by
    intro l hl
    obtain ⟨e, he, hl⟩ := List.mem_flatMap.1 hl
    exact ne_header_of_mem_tableLines (hfirst e he) hl
  rw [lines, hes, sectionLines_append hdefaults, List.flatMap_append, sectionLines_append hbefore,
    List.flatMap_cons, sectionLines_tableLines]

/-! ## Comments -/

/-- The line above that of an option in its section is a comment with a text. -/
def ShowsHelp (a : Annotated) (name option help : String) : Prop :=
  ∃ value, [.comment help, .option option value] <:+: sectionLines name a.lines

/-- A comment stands above an option if it is its help. -/
theorem comment_infix_iff {help : HelpTable} {text name : String} {value : RawValue}
    {es : List (String × RawValue)} :
    [.comment text, .option name value] <:+:
        (es.flatMap fun e => entryLines (help.get? e.1) e.1 e.2) ↔
      (name, value) ∈ es ∧ help.get? name = some text := by
  -- the lines of an option do not end with a comment, so no such pair goes over two options
  induction es with
  | nil => simp
  | cons e es ih =>
    obtain ⟨name', value'⟩ := e
    rw [List.flatMap_cons, List.mem_cons, Prod.mk.injEq]
    cases hhelp : help.get? name' with
    | none =>
      simp only [entryLines_none, List.cons_append, List.nil_append, List.infix_cons_iff,
        List.cons_prefix_cons, reduceCtorEq, false_and, false_or]
      rw [ih]
      -- without a comment above it the first option is none of those that are looked for
      constructor
      · exact fun h => ⟨.inr h.1, h.2⟩
      · rintro ⟨⟨rfl, rfl⟩ | hmem, htext⟩
        · cases hhelp.symm.trans htext
        · exact ⟨hmem, htext⟩
    | some text' =>
      simp only [entryLines_some, List.cons_append, List.nil_append, List.infix_cons_iff,
        List.cons_prefix_cons, List.nil_prefix, reduceCtorEq, false_and, false_or, and_true,
        OutputLine.comment.injEq, OutputLine.option.injEq]
      rw [ih]
      -- the comment is that of the first option, or it is one further on
      constructor
      · rintro (⟨rfl, rfl, rfl⟩ | h)
        · exact ⟨.inl ⟨rfl, rfl⟩, hhelp⟩
        · exact ⟨.inr h.1, h.2⟩
      · rintro ⟨⟨rfl, rfl⟩ | hmem, htext⟩
        · exact .inl ⟨Option.some.inj (htext.symm.trans hhelp), rfl, rfl⟩
        · exact .inr ⟨hmem, htext⟩

/-- An option of a section has a comment above it if help is recorded for it as it is stored. -/
theorem showsHelp_iff (h : a.document.Unreserved) {name : String} {t : Table}
    (ht : a.document.sections.get? name = some t) (option help : String) :
    a.ShowsHelp name option help ↔ option ∈ t.keys ∧ (a.helpOf name).get? option = some help := by
  rw [ShowsHelp, sectionLines_lines h ht]
  simp only [comment_infix_iff, exists_and_right]
  refine and_congr_left fun _ => ?_
  simp [OrderedMap.keys]

end Annotated

end JavaFragments.Ini
