import Mathlib.Data.List.Chain
import JavaFragments.Proofs.Ini.ReadBack
import JavaFragments.Proofs.Ini.ReadDocument

/-! # Writing what was read

The lines of a value are written without white space before them, so a reader takes none of them
for one that goes on with the value.  A text is `Flush` if it is written like this.

* `flush_write`           what is written of a document that was read
* `indent_of_flush`       its lines start in the first column
* `singleLine_of_flush`   whatever is read of it has values on one line
* `readText_write_iff`    so a document that was read is read back if and only if its values are -/

namespace JavaFragments.Ini

open Text

/-- A value is a text on one line. -/
def RawValue.OnOneLine : RawValue → Prop
  | .text s => '\n' ∉ s.toList
  | .lines _ => False

instance (v : RawValue) : Decidable v.OnOneLine :=
  match v with
  | .text s => inferInstanceAs (Decidable ('\n' ∉ s.toList))
  | .lines _ => inferInstanceAs (Decidable False)

/-- No value of a document goes over more than one line. -/
def Document.SingleLine (d : Document) : Prop := d.Every (fun _ => True) fun _ v => v.OnOneLine

instance (d : Document) : Decidable d.SingleLine := inferInstanceAs (Decidable (d.Every _ _))

/-- Where a line of a text starts, there is no white space before its first character. -/
def Flush (s : List Char) : Prop :=
  ('\n' :: s).IsChain fun a b => a = '\n' → b = '\n' ∨ isBlank b = false

/-! ## Flush texts -/

/-- An empty text is flush. -/
private theorem flush_nil : Flush [] := .singleton _

/-- So is a line feed. -/
private theorem flush_newline : Flush ['\n'] := by simp [Flush]

/-- Flush texts are flush together. -/
private theorem flush_append {s t : List Char} (hs : Flush s) (ht : Flush t) : Flush (s ++ t) := by
  unfold Flush at *
  rw [List.isChain_cons] at ht
  rw [← List.cons_append, List.isChain_append]
  exact ⟨hs, ht.2, fun _ _ b hb _ => ht.1 b hb rfl⟩

/-- A part at the start of a flush text. -/
private theorem flush_of_isPrefix {s t : List Char} (ht : Flush t) (h : s <+: t) : Flush s :=
  List.IsChain.prefix ht (List.cons_prefix_cons.2 ⟨rfl, h⟩)

/-- So are any number of them. -/
private theorem flush_flatMap {α : Type} {f : α → List Char} {xs : List α}
    (h : ∀ x ∈ xs, Flush (f x)) :
    Flush (xs.flatMap f) := by
  induction xs with
  | nil => exact flush_nil
  | cons x xs ih =>
    exact flush_append (h x List.mem_cons_self) (ih fun y hy => h y (List.mem_cons_of_mem x hy))

/-- A text on one line that does not start with white space. -/
private theorem flush_of_startsPlain {s : List Char} (hs : StartsPlain s) (h : '\n' ∉ s) :
    Flush s := by
  refine List.isChain_cons.2 ⟨fun c hc _ => .inr (hs c hc), ?_⟩
  refine (List.pairwise_of_forall_mem_list fun a ha b _ hnewline => ?_).isChain
  exact absurd (hnewline ▸ ha) h

/-- The first line of a text starts like the text. -/
private theorem head?_of_head?_splitLines {s line : List Char}
    (h : (splitLines s).head? = some line) :
    line.head? = s.head? := by
  fun_induction splitLines s with
  | case1 => cases h
  | case2 rest => exact Option.some.inj h ▸ rfl
  | case3 c rest => exact Option.some.inj h ▸ rfl
  | case4 c rest => exact Option.some.inj h ▸ rfl

/-- Every other line starts behind a line feed. -/
private theorem head?_of_mem_tail_splitLines {s : List Char}
    (h : s.IsChain fun a b => a = '\n' → b = '\n' ∨ isBlank b = false) :
    ∀ line ∈ (splitLines s).tail, ∀ c, line.head? = some c → c = '\n' ∨ isBlank c = false := by
  -- along the lines of the text; the next one starts where the line feed of this one ends it
  fun_induction splitLines s with
  | case1 =>
    intro line hline
    cases hline
  | case2 rest ih =>
    intro line hline c hc
    rw [List.isChain_cons] at h
    cases hrest : splitLines rest with
    | nil =>
      rw [hrest] at hline
      cases hline
    | cons first lines =>
      rw [hrest] at hline ih
      rcases List.mem_cons.1 hline with rfl | hline
      · have hfirst : (splitLines rest).head? = some line := by rw [hrest, List.head?_cons]
        exact h.1 c (head?_of_head?_splitLines hfirst ▸ hc) rfl
      · exact ih h.2 line hline c hc
  | case3 =>
    intro line hline
    cases hline
  | case4 c rest hc first lines hrest ih =>
    rw [hrest] at ih
    exact ih (List.isChain_cons.1 h).2

/-- The lines of a flush text start in the first column. -/
theorem indent_of_flush {s line content : List Char} {indent : Nat} (h : Flush s)
    (hmem : line ∈ splitLines s) (hline : Line.ofChars line = .text indent content) :
    indent = 0 := by
  obtain ⟨hcontent, rfl, c, t, hct, -⟩ := ofChars_eq_text hline
  cases line with
  | nil => rfl
  | cons d rest =>
    -- a line feed before the text makes a line start of its beginning
    rcases head?_of_mem_tail_splitLines h (d :: rest) hmem d rfl with rfl | hplain
    · -- a line that starts with its line feed is blank
      obtain ⟨text, htext, hwhole | hwhole⟩ := exists_of_mem_splitLines hmem
      · exact absurd (hwhole ▸ List.mem_cons_self) htext
      · cases text with
        | nil =>
          obtain rfl := (List.cons.inj hwhole).2
          exact nomatch hct.symm.trans hcontent
        | cons e text =>
          obtain rfl := (List.cons.inj hwhole).1
          exact absurd List.mem_cons_self htext
    · rw [List.takeWhile_cons_of_neg (by simp [hplain])]
      rfl

/-! ## Reading a flush text -/

/-- Whatever is read of a flush text has values on one line: no line of it goes on with another
    one. -/
theorem singleLine_of_flush {text : String} {d : Document} (hflush : Flush text.toList)
    (h : Document.empty.readText text = (.ok (), d)) : d.SingleLine := by
  -- what each line may do: nothing goes on with a value but a line further in
  have hsteps : ∀ p : Progress, ∀ line ∈ splitLines text.toList, ∀ d,
      p.document.Every (fun _ => True) (fun _ v => v.settle.OnOneLine) → p.Effect line d →
        d.Every (fun _ => True) (fun _ v => v.settle.OnOneLine) := by
    intro p line hmem d
    refine every_of_effect (fun _ _ _ _ _ => trivial) (fun _ v hv => ?_)
      (fun indent content hline hindent => ?_) fun _ content name value hline hcontent _ => ?_
    · rwa [settle_extend]
    · -- no line is further in than the first column
      rw [indent_of_flush hflush hmem hline] at hindent
      exact absurd hindent (Nat.not_lt_zero _)
    · obtain ⟨-, before, e, after, hwhole, -, -, rfl⟩ := content_eq_entry hcontent
      intro hnewline
      rw [String.toList_ofList, String.intercalate_singleton, String.toList_ofList] at hnewline
      have hafter := mem_of_mem_strip (mem_of_mem_stripRight hnewline)
      apply (stripped_of_mem_splitLines hmem hline).2
      rw [hwhole]
      exact List.mem_append_right before (List.mem_cons_of_mem e hafter)
  obtain ⟨e, he, rfl⟩ := exists_of_readText hsteps Document.every_empty h
  exact he.settle

/-! ## Writing what was read -/

/-- An option with a value that was read. -/
private theorem flush_entry {name : String} {w : RawValue} (hw : ReadOption name w)
    (spaces : Bool) :
    Flush (entryText (delimiter spaces) none name w.settle).toList := by
  obtain ⟨first, more, rfl, hfirst, hmore⟩ := hw
  obtain ⟨c, s, hs, hplain, -⟩ := hfirst.exists_cons
  -- the name starts the line, and it starts with no white space
  have hstart : Flush (name.toList ++ (delimiter spaces).toList ++ first.toList) := by
    have hdelimiter : '\n' ∉ (delimiter spaces).toList := by cases spaces <;> decide
    apply flush_of_startsPlain
    · rw [hs]
      exact fun d hd => Option.some.inj hd ▸ hplain
    · simp [hfirst.oneLine, hdelimiter, hfirst.oneLineValue]
  -- so does each further line of the value
  have hlines : Flush (more.flatMap fun line => '\n' :: line.toList) := by
    refine flush_flatMap fun line hline => flush_append flush_newline ?_
    obtain ⟨hstrip, hnewline⟩ := hmore line hline
    exact flush_of_startsPlain (strip_eq_self_iff.1 hstrip).1 hnewline
  -- what is stripped at the end is of no account
  have hvalue : Flush (name.toList ++ (delimiter spaces).toList ++
      stripRight (String.intercalate "\n" (first :: more)).toList) := by
    refine flush_of_isPrefix ?_ ((List.prefix_append_right_inj _).2 (isPrefix_stripRight _))
    rw [toList_intercalate, ← List.append_assoc]
    exact flush_append hstart hlines
  rw [RawValue.settle, toList_entryText, String.toList_ofList, helpChars, List.nil_append]
  exact flush_append hvalue flush_newline

/-- The text of a table is flush if its values were read. -/
private theorem flush_table {name : String} {t : Table} (hname : '\n' ∉ name.toList)
    (ht : ∀ e ∈ t.entries, ∃ w, ReadOption e.1 w ∧ w.settle = e.2) (spaces : Bool) :
    Flush (tableText (delimiter spaces) .empty name t).toList := by
  have hheader : Flush ('[' :: (name.toList ++ [']', '\n'])) := by
    have hline : Flush ('[' :: (name.toList ++ [']'])) := by
      apply flush_of_startsPlain
      · exact fun c hc => Option.some.inj hc ▸ by decide
      · simpa using hname
    simpa using flush_append hline flush_newline
  have hentries : Flush (t.entries.flatMap fun e =>
      (entryText (delimiter spaces) none e.1 e.2).toList) := by
    refine flush_flatMap fun e he => ?_
    obtain ⟨w, hw, hv⟩ := ht e he
    exact hv ▸ flush_entry hw spaces
  have hrule : Flush ('#' :: (List.replicate 40 '-' ++ ['\n']) ++ ['\n']) := by
    unfold Flush
    decide
  rw [toList_tableText]
  exact flush_append flush_newline (flush_append hheader (flush_append hentries hrule))

/-- What is written of a document that was read, without help. -/
theorem flush_write {d : Document}
    (h : d.Every PlainSectionName fun name v => ∃ w, ReadOption name w ∧ w.settle = v)
    (spaces : Bool) : Flush (Annotated.write { document := d } spaces).toList := by
  have hdefaults : '\n' ∉ defaultsName.toList := by decide
  have htext : (Annotated.write { document := d } spaces).toList =
      (if d.defaults.isEmpty then "" else
        tableText (delimiter spaces) .empty defaultsName d.defaults).toList ++
      d.sections.entries.flatMap fun e =>
        (tableText (delimiter spaces) .empty e.1 e.2).toList := by
    simp [Annotated.write, documentText, String.toList_join, List.flatMap_map]
  rw [htext]
  refine flush_append ?_ (flush_flatMap fun e he => ?_)
  · split
    · exact flush_nil
    · exact flush_table hdefaults h.defaults spaces
  · exact flush_table (h.names e he).oneLine (h.sections e he) spaces

/-! ## Reading it again -/

/-- What was read is legible if every value is on one line. -/
theorem legible_of_readText {text : String} {d : Document}
    (h : Document.empty.readText text = (.ok (), d)) (hlines : d.SingleLine) :
    Annotated.Legible { document := d } := by
  have hread := every_of_readText h
  -- what was read on one line is read so again
  have hoption : ∀ name v, (∃ w, ReadOption name w ∧ w.settle = v) →
      v.OnOneLine → LegibleOption name v := by
    rintro name v ⟨w, hw, rfl⟩ hline
    obtain ⟨s, hs⟩ : ∃ s, w.settle = .text s := by
      obtain ⟨first, more, rfl, -⟩ := hw
      exact ⟨_, rfl⟩
    rw [hs] at hline ⊢
    exact ⟨s, rfl, legible_of_settle hw hs hline⟩
  have hunreserved : d.Unreserved := by
    have hempty : Document.empty.Unreserved := List.not_mem_nil
    have hlines := unreserved_readLines hempty Document.textSource (splitLines text.toList)
    rwa [show Document.empty.readLines Document.textSource (splitLines text.toList) = _ from h]
      at hlines
  exact {
    defaults := fun e he => hoption _ _ (hread.defaults e he) (hlines.defaults e he)
    names := hread.names
    tables := fun s hs e he => hoption _ _ (hread.sections s hs e he) (hlines.sections s hs e he)
    unreserved := hunreserved
    help := nofun }

/-- A text that is read into an empty document brings no help. -/
theorem readText_eq_ok_iff {text : String} {a : Annotated} :
    Annotated.empty.readText text = (.ok (), a) ↔
      ∃ d, a = { document := d } ∧ Document.empty.readText text = (.ok (), d) := by
  constructor
  · intro h
    obtain ⟨hresult, rfl⟩ := Prod.mk.inj h
    exact ⟨_, rfl, Prod.ext hresult rfl⟩
  · rintro ⟨d, rfl, h⟩
    show ((Document.empty.readText text).1,
      ({ document := (Document.empty.readText text).2 } : Annotated)) = _
    rw [h]

/-- What was read into an empty document and is written can be read into another one, to the same
    effect, if and only if no value goes over more than one line: then there are the same
    defaults and the same sections in the same order, with the same options and values. -/
theorem readText_write_iff {text : String} {a : Annotated}
    (h : Annotated.empty.readText text = (.ok (), a)) (spaces : Bool) :
    Annotated.empty.readText (a.write spaces) = (.ok (), a) ↔ a.document.SingleLine := by
  obtain ⟨d, rfl, hread⟩ := readText_eq_ok_iff.1 h
  constructor
  · -- what is written is flush, so what comes of reading it is on single lines
    intro hagain
    obtain ⟨e, he, hwritten⟩ := readText_eq_ok_iff.1 hagain
    obtain rfl : d = e := congrArg Annotated.document he
    exact singleLine_of_flush (flush_write (every_of_readText hread) spaces) hwritten
  · intro hlines
    have hlegible := legible_of_readText hread hlines
    exact readText_eq_ok_iff.2 ⟨d, rfl, readLines_write hlegible spaces Document.textSource⟩

/-- A text with a comment, a default, a name that starts like a header, empty lines within values,
    and a section without options. -/
def looseText : String :=
  "; first\n[DEFAULT]\n  Depth: 1\n\n[a]b]\n[x = = [y\n#\n\n\n[none] rest\n"

/-- All of this text is read, and all its values stand on one line. -/
theorem readText_write_iff_looseText : ∃ a, Annotated.empty.readText looseText = (.ok (), a) ∧
    Annotated.empty.readText (a.write false) = (.ok (), a) := by
  have hresult : (Annotated.empty.readText looseText).1 = .ok () := by decide +kernel
  have hread : Annotated.empty.readText looseText =
      (.ok (), (Annotated.empty.readText looseText).2) := Prod.ext hresult rfl
  exact ⟨_, hread, (readText_write_iff hread false).2 (by decide +kernel)⟩

/-- A value that goes on in a second line. -/
def continuedText : String := "[a]\nk = 1\n  2\n"

/-- What was read is written, and the second line of its value is refused. -/
theorem readText_write_continuedText :
    (Annotated.empty.readText continuedText).1 = .ok () ∧
      (Annotated.empty.readText (Annotated.empty.readText continuedText).2.write).1 =
        .error (.malformed Document.textSource [(4, "2\n")]) := by
  decide +kernel

end JavaFragments.Ini
