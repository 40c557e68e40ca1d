import JavaFragments.Proofs.Ini.Reserved
import JavaFragments.Proofs.Ini.SettledDocument
import JavaFragments.Proofs.Ini.WrittenLine

/-! # Reading back what was written

The text of a document is read piece by piece.  `Leads s P Q` says that whoever reads the
lines of `s` in a state with `P` is behind them in a state with `Q`; `Holds d` is the state in
which `d` was read.  The pieces of a written document are

* `leads_blank`, `leads_comment`   lines that leave the document as it is
* `leads_header`                   a header, after which there is an empty table
* `leads_entry`                    an option, which comes behind the others of its table
* `leads_table`, `leads_sections`  a table, and the tables of all sections

and `readText_write` reads a written document from the empty one on. -/

namespace JavaFragments.Ini

open Text

/-- The lines of a text, as they are read from one state to another wherever they stand. -/
def Reads (s : List Char) (p q : Progress) : Prop :=
  ∀ source number rest, ∃ number',
    Progress.run source number (splitLines (s ++ rest)) p =
      Progress.run source number' (splitLines rest) q

/-- Reading the lines of a text leads from states of one kind to states of another. -/
def Leads (s : List Char) (P Q : Progress → Prop) : Prop := ∀ p, P p → ∃ q, Q q ∧ Reads s p q

/-- Without lines nothing is read. -/
theorem Reads.refl (p : Progress) : Reads [] p p := fun _ number _ => ⟨number, rfl⟩

/-- Lines are read one after the other, and counted. -/
theorem Reads.trans {s t : List Char} {p q r : Progress} (hs : Reads s p q) (ht : Reads t q r) :
    Reads (s ++ t) p r := by
  intro source number rest
  obtain ⟨number', hnumber'⟩ := hs source number (t ++ rest)
  obtain ⟨number'', hnumber''⟩ := ht source number' rest
  exact ⟨number'', by rw [List.append_assoc, hnumber', hnumber'']⟩

/-- One line is read by one step. -/
private theorem reads_line {line : List Char} {p q : Progress} (h : '\n' ∉ line)
    (hstep : ∀ source number, p.step source number (line ++ ['\n']) = .ok q) :
    Reads (line ++ ['\n']) p q := by
  intro source number rest
  refine ⟨number + 1, ?_⟩
  rw [List.append_assoc, List.singleton_append, splitLines_line h, Progress.run, hstep]

/-- Without lines there is nothing behind which to be. -/
theorem Leads.refl (P : Progress → Prop) : Leads [] P P := fun p hp => ⟨p, hp, Reads.refl p⟩

/-- Texts lead one after the other to where the last one leads. -/
theorem Leads.trans {s t : List Char} {P Q R : Progress → Prop} (hs : Leads s P Q)
    (ht : Leads t Q R) : Leads (s ++ t) P R := by
  intro p hp
  obtain ⟨q, hq, hreads⟩ := hs p hp
  obtain ⟨r, hr, hreads'⟩ := ht q hq
  exact ⟨r, hr, hreads.trans hreads'⟩

/-- A document was read so far. -/
structure Holds (d : Document) (p : Progress) : Prop where
  settled : p.document.settle = d
  malformed : p.malformed = []
  /-- Only sections that are there had headers. -/
  headers : ∀ name ∈ p.headers, name ∈ d.sections.keys
  /-- Only options that are there were given. -/
  given : ∀ e ∈ p.given, e.2 ∈ (d.table e.1).keys

/-- A document was read so far, and the options that come next belong to a section. -/
structure HoldsIn (name : String) (d : Document) (p : Progress) : Prop extends Holds d p where
  current : p.current = some name

/-! ## Lines that leave the document as it is -/

/-- A blank line goes on with a value, if there is one. -/
private theorem step_blank (p : Progress) (source : String) (number : Nat) :
    p.step source number (['\n']) = .ok (p.extend []) := rfl

/-- A line that starts with a hash is skipped. -/
private theorem step_comment (p : Progress) (source : String) (number : Nat) (s : List Char) :
    p.step source number ('#' :: s) = .ok p := by
  rw [Progress.step, ofChars_comment]

/-- A blank line is not seen once the lines are put together. -/
private theorem holds_extend {d : Document} {p : Progress} (h : Holds d p) :
    Holds d (p.extend []) ∧ (p.extend []).current = p.current := by
  unfold Progress.extend
  -- the blank line is kept with the value until that is put together
  split
  · rename_i name option hcurrent hoption
    refine ⟨{ h with settled := ?_ }, rfl⟩
    exact (Document.settle_extendTable p.document name option).trans h.settled
  · exact ⟨h, rfl⟩

/-- A blank line is one line. -/
private theorem reads_blank (p : Progress) : Reads ['\n'] p (p.extend []) :=
  reads_line List.not_mem_nil (step_blank p)

/-- A blank line leaves the document as it is. -/
theorem leads_blank (d : Document) : Leads ['\n'] (Holds d) (Holds d) :=
  fun p hp => ⟨_, (holds_extend hp).1, reads_blank p⟩

/-- It also leaves the section as it is. -/
private theorem leads_blank_in (name : String) (d : Document) :
    Leads ['\n'] (HoldsIn name d) (HoldsIn name d) := by
  intro p hp
  obtain ⟨hholds, hcurrent⟩ := holds_extend hp.toHolds
  exact ⟨_, { hholds with current := hcurrent.trans hp.current }, reads_blank p⟩

/-- A comment changes nothing. -/
theorem leads_comment {s : List Char} (h : '\n' ∉ s) (P : Progress → Prop) :
    Leads ('#' :: (s ++ ['\n'])) P P := by
  intro p hp
  have hline : '\n' ∉ '#' :: s := by simpa using h
  exact ⟨p, hp, reads_line hline fun source number => step_comment p source number _⟩

/-! ## Headers -/

/-- A line with a header enters its section from the first column. -/
private theorem step_header {name : String} (h : PlainSectionName name) (p : Progress)
    (source : String) (number : Nat) :
    p.step source number ('[' :: (name.toList ++ [']', '\n'])) =
      ({ p with indent := 0 } : Progress).enter source number name := by
  have hne : name.toList ≠ [] := fun e => h.nonempty (String.toList_inj.1 e)
  simp only [Progress.step, ofChars_header, content_header hne, Nat.not_lt_zero, and_false,
    if_false, String.ofList_toList]

/-- A header starts a table that was not there. -/
private theorem enter_holds {d : Document} {name : String} (hd : d.Lacks name) {p : Progress}
    (hp : Holds d p) : ∃ q, HoldsIn name (d.withTable name .empty) q ∧
      ∀ source number, ({ p with indent := 0 } : Progress).enter source number name = .ok q := by
  by_cases hname : name = defaultsName
  · -- the table of the defaults is there from the start
    have hdefaults : d.withTable name .empty = d := by
      have hempty : d.defaults = .empty := by simpa [Document.Lacks, hname] using hd
      rw [Document.withTable, if_pos hname, ← hempty]
    refine ⟨{ p with indent := 0, current := some name, option := none }, ?_, ?_⟩
    · rw [hdefaults]
      exact ⟨⟨hp.settled, hp.malformed, hp.headers, hp.given⟩, rfl⟩
    · intro source number
      rw [Progress.enter, if_pos hname]
  · -- the section is new, neither read before nor there already
    have hfresh : name ∉ d.sections.keys := by simpa [Document.Lacks, hname] using hd
    have hheaders : p.headers.contains name = false := by
      have hmem : name ∉ p.headers := fun hmem => hfresh (hp.headers name hmem)
      simpa using hmem
    have hsections : p.document.sections.contains name = false := by
      apply OrderedMap.contains_eq_false
      rw [← Document.keys_settle, hp.settled]
      exact hfresh
    have hempty : ∀ option ∈ (d.table name).keys, option ∈ (OrderedMap.empty : Table).keys := by
      rw [Document.table_of_lacks hd]
      exact fun _ => id
    refine ⟨{ p with
      indent := 0
      current := some name
      option := none
      document := { p.document with sections := p.document.sections.put name .empty }
      headers := name :: p.headers }, ⟨⟨?_, hp.malformed, ?_, ?_⟩, rfl⟩, ?_⟩
    · -- the new table comes behind the others
      rw [Document.settle_addTable p.document hname, hp.settled]
    · intro other hother
      -- a section that had a header is the new one or was there
      rcases List.mem_cons.1 hother with rfl | hother
      · rw [Document.withTable, if_neg hname]
        exact OrderedMap.mem_keys_put.2 (Or.inl rfl)
      · exact Document.mem_sections_withTable (hp.headers other hother)
    · -- the options that were given before are where they were
      intro e he
      exact Document.mem_table_withTable hempty (hp.given e he)
    · intro source number
      simp only [Progress.enter, if_neg hname, hheaders, hsections, Bool.false_eq_true, if_false]

/-- A header leads to an empty table under its name. -/
theorem leads_header {d : Document} {name : String} (h : PlainSectionName name)
    (hd : d.Lacks name) :
    Leads ('[' :: (name.toList ++ [']', '\n'])) (Holds d)
      (HoldsIn name (d.withTable name .empty)) := by
  intro p hp
  obtain ⟨q, hq, henter⟩ := enter_holds hd hp
  refine ⟨q, hq, ?_⟩
  have hline : '\n' ∉ '[' :: (name.toList ++ [']']) := by simpa using h.oneLine
  have hsplit : '[' :: (name.toList ++ [']', '\n']) = ('[' :: (name.toList ++ [']'])) ++ ['\n'] := by
    simp
  rw [hsplit]
  apply reads_line hline
  intro source number
  rw [← hsplit, step_header h, henter]

/-! ## Options -/

/-- A line with an option starts its value. -/
private theorem step_entry {name : String} {value : List Char} (h : LegibleEntry name value)
    (spaces : Bool) {p : Progress} {sectionName : String} (hcurrent : p.current = some sectionName)
    (source : String) (number : Nat) :
    p.step source number
        (name.toList ++ padding spaces ++ '=' :: (padding spaces ++ value ++ ['\n'])) =
      ({ p with indent := 0 } : Progress).start source number sectionName name value := by
  have hne : name.toList ≠ [] := fun e => h.nonempty (String.toList_inj.1 e)
  -- the line starts in the first column, so it goes on with no value
  simp only [Progress.step, ofChars_entry h, content_entry h, Nat.not_lt_zero,
    and_false, if_false, hcurrent, hne, String.ofList_toList, h.lowerCase]

/-- An option that its table lacks comes behind the others. -/
private theorem start_holds {d : Document} {sectionName name : String} {t : Table}
    (hfresh : name ∉ t.keys) {value : List Char} (hvalue : strip value = value) {p : Progress}
    (hp : HoldsIn sectionName (d.withTable sectionName t) p) :
    ∃ q, HoldsIn sectionName
        (d.withTable sectionName (t.put name (.text (String.ofList value)))) q ∧
      ∀ source number,
        ({ p with indent := 0 } : Progress).start source number sectionName name value =
          .ok q := by
  -- a name that was given already would be in the table
  have hgiven : p.given.contains (sectionName, name) = false := by
    have hmem : (sectionName, name) ∉ p.given := by
      intro hmem
      have hkey := hp.given _ hmem
      rw [Document.table_withTable_self] at hkey
      exact hfresh hkey
    simpa using hmem
  have hkeys : ∀ option ∈ ((d.withTable sectionName t).table sectionName).keys,
      option ∈ (t.put name (.text (String.ofList value))).keys := by
    intro option hoption
    rw [Document.table_withTable_self] at hoption
    exact OrderedMap.mem_keys_put.2 (Or.inr hoption)
  have hdocument : d.withTable sectionName (t.put name (.text (String.ofList value))) =
      (d.withTable sectionName t).withTable sectionName
        (t.put name (.text (String.ofList value))) :=
    (Document.withTable_withTable ..).symm
  refine ⟨{ p with
    indent := 0
    document := p.document.modifyTable sectionName (·.put name (.lines [String.ofList value]))
    option := if name = "" then none else some name
    given := (sectionName, name) :: p.given }, ⟨⟨?_, hp.malformed, ?_, ?_⟩, hp.current⟩, ?_⟩
  · -- the value is stripped, so it settles to itself
    rw [Document.settle_startTable (stripLeft_and_stripRight_of_strip hvalue).2, hp.settled,
      Document.modifyTable_withTable]
  · intro other hother
    rw [hdocument]
    exact Document.mem_sections_withTable (hp.headers other hother)
  · intro e he
    -- an option that was given is this one or was given before
    rcases List.mem_cons.1 he with rfl | he
    · rw [Document.table_withTable_self]
      exact OrderedMap.mem_keys_put.2 (Or.inl rfl)
    · rw [hdocument]
      exact Document.mem_table_withTable hkeys (hp.given e he)
  · intro source number
    simp only [Progress.start, hgiven, Bool.false_eq_true, if_false]

/-- A line with an option leads to one option more in its table. -/
private theorem leads_option {d : Document} {sectionName name value : String} {t : Table}
    (h : LegibleEntry name value.toList) (hfresh : name ∉ t.keys) (spaces : Bool) :
    Leads (name.toList ++ (delimiter spaces).toList ++ value.toList ++ ['\n'])
      (HoldsIn sectionName (d.withTable sectionName t))
      (HoldsIn sectionName (d.withTable sectionName (t.put name (.text value)))) := by
  intro p hp
  obtain ⟨q, hq, hstart⟩ := start_holds hfresh h.strippedValue hp
  rw [String.ofList_toList] at hq
  refine ⟨q, hq, ?_⟩
  have hdelimiter : '\n' ∉ (delimiter spaces).toList := by cases spaces <;> decide
  apply reads_line (by simp [h.oneLine, hdelimiter, h.oneLineValue])
  intro source number
  rw [← hstart source number, ← step_entry h spaces hp.current, toList_delimiter]
  simp only [List.append_assoc, List.cons_append]

/-- The comment above an option, with a blank line before it. -/
def helpChars : Option String → List Char
  | some help => '\n' :: '#' :: (' ' :: help.toList ++ ['\n'])
  | none => []

/-- The comment above an option leaves the document as it is. -/
private theorem leads_help {help? : Option String}
    (hhelp : ∀ help, help? = some help → '\n' ∉ help.toList) (sectionName : String) (d : Document) :
    Leads (helpChars help?) (HoldsIn sectionName d) (HoldsIn sectionName d) := by
  cases help? with
  | none => exact Leads.refl _
  | some help =>
    have hline : '\n' ∉ ' ' :: help.toList := by simpa using hhelp help rfl
    exact (leads_blank_in sectionName d).trans (leads_comment hline _)

/-- A string that is put into a longer one stands for itself. -/
theorem toString_string (s : String) : toString s = s := rfl

/-- The text of an option is its comment and its line. -/
theorem toList_entryText (spaces : Bool) (help? : Option String) (name value : String) :
    (entryText (delimiter spaces) help? name (.text value)).toList =
      helpChars help? ++ (name.toList ++ (delimiter spaces).toList ++ value.toList ++ ['\n']) := by
  cases help? with
  | none => simp [entryText, RawValue.written, helpChars, toString_string]
  | some help => simp [entryText, RawValue.written, helpChars, toString_string]

/-- An option and its value as it is stored, which are read as they are written. -/
def LegibleOption (name : String) (value : RawValue) : Prop :=
  ∃ s, value = .text s ∧ LegibleEntry name s.toList

/-- An option with its comment leads to one option more in its table. -/
theorem leads_entry {d : Document} {sectionName name : String} {value : RawValue} {t : Table}
    (h : LegibleOption name value) (hfresh : name ∉ t.keys) {help? : Option String}
    (hhelp : ∀ help, help? = some help → '\n' ∉ help.toList) (spaces : Bool) :
    Leads (entryText (delimiter spaces) help? name value).toList
      (HoldsIn sectionName (d.withTable sectionName t))
      (HoldsIn sectionName (d.withTable sectionName (t.put name value))) := by
  obtain ⟨s, rfl, hs⟩ := h
  rw [toList_entryText]
  exact (leads_help hhelp _ _).trans (leads_option hs hfresh spaces)

/-! ## Tables -/

/-- Options have names and values that are read as they are written. -/
structure PlainTable (t : Table) : Prop where
  names : ∀ e ∈ t.entries, PlainOptionName e.1
  values : ∀ e ∈ t.entries, PlainValue e.2

/-- Options are read as they are written. -/
def LegibleTable (t : Table) : Prop := ∀ e ∈ t.entries, LegibleOption e.1 e.2

/-- Plain options are read as they are written. -/
theorem PlainTable.legible {t : Table} (h : PlainTable t) : LegibleTable t := by
  intro e he
  obtain ⟨s, hs, hstrip, hline⟩ := h.values e he
  exact ⟨s, hs, (h.names e he).legible hstrip hline⟩

/-- Help is on one line. -/
def PlainHelp (help : HelpTable) : Prop := ∀ e ∈ help.entries, '\n' ∉ e.2.toList

/-- The options that are left of a table lead to the whole table. -/
private theorem leads_entries {d : Document} {sectionName : String} {help : HelpTable}
    (hhelp : PlainHelp help) (spaces : Bool) {whole : Table} (hwhole : LegibleTable whole)
    {t : Table} {es : List (String × RawValue)} (hes : whole.entries = t.entries ++ es) :
    Leads (es.flatMap fun e => (entryText (delimiter spaces) (help.get? e.1) e.1 e.2).toList)
      (HoldsIn sectionName (d.withTable sectionName t))
      (HoldsIn sectionName (d.withTable sectionName whole)) := by
  -- on the options that are left; the next one is not among those that were read
  induction es generalizing t with
  | nil =>
    have hsame : whole = t := OrderedMap.ext' (by rw [hes, List.append_nil])
    exact hsame ▸ Leads.refl _
  | cons e es ih =>
    have hmem : e ∈ whole.entries := by
      rw [hes]
      exact List.mem_append_right _ List.mem_cons_self
    have hfresh : e.1 ∉ t.keys := OrderedMap.not_mem_keys_of_entries hes
    have hrest : whole.entries = (t.put e.1 e.2).entries ++ es := by
      rw [OrderedMap.entries_put_of_not_mem hfresh, hes, List.append_assoc, List.singleton_append]
    have hline : ∀ text, help.get? e.1 = some text → '\n' ∉ text.toList :=
      fun text htext => hhelp _ (OrderedMap.mem_entries_of_get? htext)
    have hentry : Leads (entryText (delimiter spaces) (help.get? e.1) e.1 e.2).toList
        (HoldsIn sectionName (d.withTable sectionName t))
        (HoldsIn sectionName (d.withTable sectionName (t.put e.1 e.2))) :=
      leads_entry (hwhole e hmem) hfresh hline spaces
    exact hentry.trans (ih hrest)

/-- The text of a table is a blank line, a header, the options, and a rule behind them. -/
theorem toList_tableText (spaces : Bool) (help : HelpTable) (name : String) (t : Table) :
    (tableText (delimiter spaces) help name t).toList =
      ['\n'] ++ ('[' :: (name.toList ++ [']', '\n']) ++
        ((t.entries.flatMap fun e =>
            (entryText (delimiter spaces) (help.get? e.1) e.1 e.2).toList) ++
          ('#' :: (List.replicate 40 '-' ++ ['\n']) ++ ['\n']))) := by
  simp [tableText, rule, toString_string, String.toList_join, List.flatMap_map]

/-- The text of a table leads to the table. -/
theorem leads_table {d : Document} {name : String} {t : Table} {help : HelpTable}
    (hname : PlainSectionName name) (hd : d.Lacks name) (ht : LegibleTable t) (hhelp : PlainHelp help)
    (spaces : Bool) :
    Leads (tableText (delimiter spaces) help name t).toList (Holds d)
      (Holds (d.withTable name t)) := by
  have hrule : '\n' ∉ List.replicate 40 '-' := by decide
  -- behind a table it does not matter any more which one it was
  have hlast : Leads ['\n'] (HoldsIn name (d.withTable name t)) (Holds (d.withTable name t)) :=
    fun p hp => leads_blank _ p hp.toHolds
  rw [toList_tableText]
  -- blank line, header, options, rule, blank line
  exact (leads_blank d).trans ((leads_header hname hd).trans
    ((leads_entries hhelp spaces ht rfl).trans ((leads_comment hrule _).trans hlast)))

/-! ## Documents -/

/-- A document with help has names, values and help texts that are read as they are written.
    No section has the name of the defaults, as for every document that is made
    (`Annotated.Made.unreserved`). -/
structure Annotated.Plain (a : Annotated) : Prop where
  defaults : PlainTable a.document.defaults
  names : ∀ e ∈ a.document.sections.entries, PlainSectionName e.1
  tables : ∀ e ∈ a.document.sections.entries, PlainTable e.2
  unreserved : a.document.Unreserved
  help : ∀ e ∈ a.help.entries, PlainHelp e.2

/-- A document with help that is read as it is written. -/
structure Annotated.Legible (a : Annotated) : Prop where
  defaults : LegibleTable a.document.defaults
  names : ∀ e ∈ a.document.sections.entries, PlainSectionName e.1
  tables : ∀ e ∈ a.document.sections.entries, LegibleTable e.2
  unreserved : a.document.Unreserved
  help : ∀ e ∈ a.help.entries, PlainHelp e.2

/-- A plain document is read as it is written. -/
theorem Annotated.Plain.legible {a : Annotated} (h : a.Plain) : a.Legible where
  defaults := h.defaults.legible
  names := h.names
  tables e he := (h.tables e he).legible
  unreserved := h.unreserved
  help := h.help

/-- The sections that are left of a document lead to the whole document. -/
theorem leads_sections {helpOf : String → HelpTable} (hhelp : ∀ name, PlainHelp (helpOf name))
    (spaces : Bool) {whole : Document} (hnames : ∀ e ∈ whole.sections.entries, PlainSectionName e.1)
    (htables : ∀ e ∈ whole.sections.entries, LegibleTable e.2)
    (hunreserved : whole.Unreserved) {d : Document}
    {es : List (String × Table)} (hdefaults : whole.defaults = d.defaults)
    (hes : whole.sections.entries = d.sections.entries ++ es) :
    Leads (es.flatMap fun e => (tableText (delimiter spaces) (helpOf e.1) e.1 e.2).toList) (Holds d)
      (Holds whole) := by
  -- on the sections that are left; the next one is not among those that were read
  induction es generalizing d with
  | nil =>
    have hsections : whole.sections = d.sections := OrderedMap.ext' (by rw [hes, List.append_nil])
    have hsame : whole = d := by
      cases whole
      cases d
      simp_all
    exact hsame ▸ Leads.refl _
  | cons e es ih =>
    have hmem : e ∈ whole.sections.entries := by
      rw [hes]
      exact List.mem_append_right _ List.mem_cons_self
    -- a section with the name of the defaults would be read as the defaults
    have hne : e.1 ≠ defaultsName := fun h => hunreserved (h ▸ List.mem_map_of_mem hmem)
    have hfresh : e.1 ∉ d.sections.keys := OrderedMap.not_mem_keys_of_entries hes
    have hlacks : d.Lacks e.1 := by
      rw [Document.Lacks, if_neg hne]
      exact hfresh
    have htable := leads_table (hnames e hmem) hlacks (htables e hmem) (hhelp e.1) spaces
    refine htable.trans (ih ?_ ?_)
    · rw [Document.withTable, if_neg hne]
      exact hdefaults
    · rw [Document.withTable, if_neg hne]
      show _ = (d.sections.put e.1 e.2).entries ++ es
      rw [OrderedMap.entries_put_of_not_mem hfresh, hes, List.append_assoc, List.singleton_append]

/-- The defaults, which are written only if there are any, lead to the defaults. -/
private theorem leads_defaults {help : HelpTable} (hhelp : PlainHelp help) (spaces : Bool)
    {t : Table} (ht : LegibleTable t) :
    Leads (if t.isEmpty then "" else tableText (delimiter spaces) help defaultsName t).toList
      (Holds .empty) (Holds { defaults := t }) := by
  -- an empty table is not written, and there is one from the start
  by_cases hempty : t.isEmpty
  · have hnone : t = .empty := OrderedMap.ext' (List.isEmpty_iff.1 hempty)
    rw [if_pos hempty, hnone]
    exact Leads.refl _
  · have hname : PlainSectionName defaultsName := ⟨by decide, by decide⟩
    have hlacks : Document.empty.Lacks defaultsName := by
      rw [Document.Lacks, if_pos rfl]
      rfl
    rw [if_neg hempty]
    exact leads_table hname hlacks ht hhelp spaces

/-- The text of a document leads from the empty document to it. -/
theorem leads_legible {a : Annotated} (h : a.Legible) (spaces : Bool) :
    Leads (a.write spaces).toList (Holds .empty) (Holds a.document) := by
  have hhelp : ∀ name, PlainHelp ((a.help.get? name).getD .empty) := by
    intro name
    cases hget : a.help.get? name with
    | none => exact fun _ => nofun
    | some help => exact h.help _ (OrderedMap.mem_entries_of_get? hget)
  have hdefaults := leads_defaults (hhelp defaultsName) spaces h.defaults
  have hsections : Leads (a.document.sections.entries.flatMap fun e =>
        (tableText (delimiter spaces) ((a.help.get? e.1).getD .empty) e.1 e.2).toList)
      (Holds { defaults := a.document.defaults }) (Holds a.document) :=
    leads_sections hhelp spaces h.names h.tables h.unreserved rfl rfl
  -- the text of the document is that of the defaults and those of all sections
  have htext : (a.write spaces).toList =
      (if a.document.defaults.isEmpty then "" else
        tableText (delimiter spaces) ((a.help.get? defaultsName).getD .empty) defaultsName
          a.document.defaults).toList ++
      a.document.sections.entries.flatMap fun e =>
        (tableText (delimiter spaces) ((a.help.get? e.1).getD .empty) e.1 e.2).toList := by
    simp [Annotated.write, documentText, String.toList_join, List.flatMap_map]
  rw [htext]
  exact hdefaults.trans hsections

/-- A text that leads from the empty document to another one is read as that, from any source. -/
theorem readLines_of_leads {s : List Char} {d : Document} (h : Leads s (Holds .empty) (Holds d))
    (source : String) : Document.empty.readLines source (splitLines s) = (.ok (), d) := by
  have hstart : Holds .empty { document := .empty } := ⟨rfl, rfl, nofun, nofun⟩
  obtain ⟨q, hq, hreads⟩ := h _ hstart
  -- nothing follows the text, so reading ends in the state it leads to
  obtain ⟨number, hrun⟩ := hreads source 1 []
  rw [List.append_nil] at hrun
  rw [Document.readLines, hrun]
  show q.finish source = _
  rw [Progress.finish, hq.malformed, hq.settled]
  rfl

/-- A legible document is read back from any source. -/
theorem readLines_write {a : Annotated} (h : a.Legible) (spaces : Bool) (source : String) :
    Document.empty.readLines source (splitLines (a.write spaces).toList) = (.ok (), a.document) :=
  readLines_of_leads (leads_legible h spaces) source

/-- Whatever is written of a document with plain names, values and help texts is read back as
    that document: the same defaults and the same sections, empty ones included, in the same
    order with the same options in the same order, and nothing is refused. -/
theorem readText_write {a : Annotated} (h : a.Plain) (spaces : Bool) :
    Annotated.empty.readText (a.write spaces) = (.ok (), { document := a.document }) := by
  have hread : Document.empty.readText (a.write spaces) = (.ok (), a.document) :=
    readLines_write h.legible spaces Document.textSource
  show ((Document.empty.readText (a.write spaces)).1,
    ({ document := (Document.empty.readText (a.write spaces)).2 } : Annotated)) = _
  rw [hread]

/-- A document with a default, with an option whose value could be taken for other things
    elsewhere, and with a section without options. -/
def mixedDocument : Annotated where
  document :=
    { defaults := .ofList [("depth", .text "")]
      sections := .ofList [("java gen]", .ofList [("seed x", .text "[a: b] = #c")]), ("none", .empty)] }
  help := .ofList [("java gen]", .ofList [("seed x", "[see] below = above")])]

/-- All of this document is plain, so it is read back. -/
theorem readText_write_mixed :
    Annotated.empty.readText mixedDocument.write = (.ok (), { document := mixedDocument.document }) := by
  have hdefaults : PlainTable mixedDocument.document.defaults := by
    constructor
    · rintro e (_ | ⟨_, ⟨⟩⟩)
      refine ⟨by decide, by decide, by decide, by decide, by decide, fun c hc => ?_⟩
      obtain rfl : 'd' = c := Option.some.inj hc
      decide
    · rintro e (_ | ⟨_, ⟨⟩⟩)
      exact ⟨_, rfl, by decide, by decide⟩
  have hnames : ∀ e ∈ mixedDocument.document.sections.entries, PlainSectionName e.1 := by
    rintro e (_ | ⟨_, _ | ⟨_, ⟨⟩⟩⟩)
    · exact ⟨by decide, by decide⟩
    · exact ⟨by decide, by decide⟩
  have htables : ∀ e ∈ mixedDocument.document.sections.entries, PlainTable e.2 := by
    rintro e (_ | ⟨_, _ | ⟨_, ⟨⟩⟩⟩)
    · constructor
      · rintro e (_ | ⟨_, ⟨⟩⟩)
        refine ⟨by decide, by decide, by decide, by decide, by decide, fun c hc => ?_⟩
        obtain rfl : 's' = c := Option.some.inj hc
        decide
      · rintro e (_ | ⟨_, ⟨⟩⟩)
        exact ⟨_, rfl, by decide, by decide⟩
    · exact ⟨fun _ => nofun, fun _ => nofun⟩
  have hunreserved : mixedDocument.document.Unreserved := by
    unfold Document.Unreserved
    decide
  have hhelp : ∀ e ∈ mixedDocument.help.entries, PlainHelp e.2 := by
    rintro e (_ | ⟨_, ⟨⟩⟩)
    rintro e (_ | ⟨_, ⟨⟩⟩)
    decide
  exact readText_write ⟨hdefaults, hnames, htables, hunreserved, hhelp⟩ true

end JavaFragments.Ini
