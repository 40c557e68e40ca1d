import JavaFragments.Proofs.Ini.Edit
import JavaFragments.Proofs.Ini.OutputLine

/-! # Help that is written

Help is recorded under the spelling of an option that it is given with, and looked up under the one
that the option is stored with.  So it is written above the option if these are the same:

* `keeps_after`           what is true of the document after an edit on one line
* `helpFor?_edit`         help stays until there is other help for the option
* `showsHelp_last_iff`    whether the last help for an option is written above it -/

namespace JavaFragments.Ini

open Text

/-- A section is added or a value is stored, and no text that is given goes over more than one
    line. -/
def Edit.OnOneLine : Edit → Prop
  | addSection _ => True
  | set _ _ value? help? =>
    (∀ value, value? = some value → '\n' ∉ value.toList) ∧
      ∀ help, help? = some help → '\n' ∉ help.toList
  | read _ => False

/-- Help is given for an option of a section, however the option is spelled. -/
def Edit.GivesHelp (sectionName key : String) : Edit → Prop
  | set sectionName' option _ (some _) => sectionName' = sectionName ∧ lower option = key
  | _ => False

/-! ## What edits keep -/

namespace Annotated

variable {a : Annotated}

/-- What is true of a document and stays true where an empty section is added or a value on one line
    is stored is true after an edit on one line. -/
theorem keeps_after {I : Document → Prop}
    (hadd : ∀ d name, I d → d.hasSection name = false →
      I { d with sections := d.sections.put name .empty })
    (hset : ∀ d d' name option value, I d → '\n' ∉ value.toList →
      d.set name option (some value) = .ok d' → I d')
    (h : I a.document) {e : Edit} (he : e.OnOneLine) : I (e.after a).document := by
  have hsection : ∀ name, I (a.withSection name).document := by
    intro name
    rcases a.withSection_eq_or_added name with heq | ⟨hmissing, heq⟩ <;> rw [heq]
    · exact h
    · exact hadd _ name h hmissing
  cases e with
  | addSection name =>
    rw [Edit.after, addSection_eq_withSection]
    exact hsection name
  | set name option value? help? =>
    rw [Edit.after]
    rcases a.document_set name option value? help? with heq | ⟨value, rfl, hstored⟩
    · rw [heq]
      exact hsection name
    · exact hset _ _ name option value (hsection name) (he.1 value rfl) hstored
  | read text => exact he.elim

/-- What is true of the document before edits on one line is true after them. -/
private theorem keeps_edit {I : Document → Prop}
    (hadd : ∀ d name, I d → d.hasSection name = false →
      I { d with sections := d.sections.put name .empty })
    (hset : ∀ d d' name option value, I d → '\n' ∉ value.toList →
      d.set name option (some value) = .ok d' → I d')
    (h : I a.document) {es : List Edit} (hes : ∀ e ∈ es, e.OnOneLine) :
    I (a.edit es).document := by
  -- on the edits, each of which starts from what the ones before it have left
  induction es generalizing a with
  | nil => exact h
  | cons e es ih =>
    exact ih (keeps_after hadd hset h (hes e List.mem_cons_self))
      fun e' he' => hes e' (List.mem_cons_of_mem e he')

/-! ## Documents after edits on one line -/

/-- Values are on one line. -/
private theorem singleLine_edit {es : List Edit} (hes : ∀ e ∈ es, e.OnOneLine) :
    (empty.edit es).document.SingleLine := by
  have hempty : empty.document.SingleLine := Document.every_empty
  -- an empty section adds no value, and a value that is stored has one line
  refine keeps_edit (I := Document.SingleLine) (fun d name h _ => ?_)
    (fun d d' name option value h hvalue hset => ?_) hempty hes
  · refine ⟨fun _ _ => trivial, h.defaults, fun s hs => ?_⟩
    rcases OrderedMap.mem_entries_put hs with rfl | hs
    · exact fun e he => absurd he List.not_mem_nil
    · exact h.sections s hs
  · have hput : ∀ t : Table, (∀ e ∈ t.entries, e.2.OnOneLine) →
        ∀ e ∈ (t.put (lower option) (.text value)).entries, e.2.OnOneLine := by
      intro t ht e he
      rcases OrderedMap.mem_entries_put he with rfl | he
      · exact hvalue
      · exact ht e he
    rcases documentSet_eq_ok hset with ⟨-, rfl⟩ | ⟨-, rfl⟩
    · exact ⟨fun _ _ => trivial, hput _ h.defaults, h.sections⟩
    · refine ⟨fun _ _ => trivial, h.defaults, fun s hs => ?_⟩
      rcases OrderedMap.mem_entries_modify hs with ⟨t, ht, rfl⟩ | hs
      · exact hput t (h.sections (name, t) ht)
      · exact h.sections s hs

/-- The options of a section without a name are among the defaults. -/
private theorem nameless_edit {es : List Edit} (hes : ∀ e ∈ es, e.OnOneLine) {t : Table}
    (ht : (empty.edit es).document.sections.get? "" = some t) : t = .empty := by
  have hempty : ∀ t, empty.document.sections.get? "" = some t → t = .empty := by
    intro t ht
    cases ht
  refine keeps_edit (I := fun d => ∀ t, d.sections.get? "" = some t → t = .empty)
    (fun d name h _ t ht => ?_) (fun d d' name option value h _ hset t ht => ?_) hempty hes t ht
  · rw [OrderedMap.get?_put] at ht
    split at ht
    · exact (Option.some.inj ht).symm
    · exact h t ht
  · -- a value for a section without a name goes among the defaults
    rcases documentSet_eq_ok hset with ⟨-, rfl⟩ | ⟨hname, rfl⟩
    · exact h t ht
    · rw [OrderedMap.get?_modify, if_neg fun heq => hname (.inl heq)] at ht
      exact h t ht

/-- A section has a table of which something is true. -/
def HasTable (d : Document) (name : String) (P : Table → Prop) : Prop :=
  ∃ t, d.sections.get? name = some t ∧ P t

/-- What is true of the table of a section stays true if no value that is stored changes that. -/
private theorem hasTable_edit {name : String} {P : Table → Prop}
    (hP : ∀ t key v, P t → P (t.put key v))
    (h : HasTable a.document name P) {es : List Edit} (hes : ∀ e ∈ es, e.OnOneLine) :
    HasTable (a.edit es).document name P := by
  refine keeps_edit (I := fun d => HasTable d name P) (fun d other h hmissing => ?_)
    (fun d d' other option value h _ hset => ?_) h hes
  · -- a section that is added is another one, since this one is there
    obtain ⟨t, ht, hP⟩ := h
    have hne : other ≠ name := by
      rintro rfl
      rw [Document.hasSection, OrderedMap.contains, ht] at hmissing
      cases hmissing
    exact ⟨t, by rw [OrderedMap.get?_put, if_neg hne, ht], hP⟩
  · obtain ⟨t, ht, hPt⟩ := h
    rcases documentSet_eq_ok hset with ⟨-, rfl⟩ | ⟨-, rfl⟩
    · exact ⟨t, ht, hPt⟩
    · -- the value goes into this table or into another one
      by_cases heq : other = name
      · subst heq
        exact ⟨_, by rw [OrderedMap.get?_modify, if_pos rfl, ht, Option.map_some], hP t _ _ hPt⟩
      · exact ⟨t, by rw [OrderedMap.get?_modify, if_neg heq, ht], hPt⟩

/-- The section that a value was stored under is there, and has the option if it has a name. -/
private theorem hasTable_set (h : a.document.Unreserved) {name option : String}
    {value? help? : Option String} (hok : (a.set name option value? help?).1 = .ok ()) :
    HasTable (a.set name option value? help?).2.document name
      fun t => name ≠ "" → lower option ∈ t.keys := by
  have hreserved : name ≠ defaultsName := by
    rintro rfl
    rw [set_defaults h] at hok
    cases hok
  -- the section is there before the value is looked at
  obtain ⟨t, ht⟩ := Option.isSome_iff_exists.1 (a.hasSection_withSection (.inr hreserved))
  obtain ⟨value, rfl, hset⟩ := documentSet_of_set_ok (.inr hreserved) hok
  rcases documentSet_eq_ok hset with ⟨hdefaults, heq⟩ | ⟨-, heq⟩
  · rw [heq]
    exact ⟨t, ht, fun hname => absurd hdefaults (not_or.2 ⟨hname, hreserved⟩)⟩
  · refine ⟨_, by rw [heq, OrderedMap.get?_modify, if_pos rfl, ht, Option.map_some], fun _ => ?_⟩
    exact OrderedMap.mem_keys_put.2 (.inl rfl)

/-! ## Help after edits -/

/-- The help for an option is that in the table of its section. -/
private theorem helpOf_get? (a : Annotated) (name option : String) :
    (a.helpOf name).get? option = a.helpFor? name option := by
  rw [helpOf, helpFor?]
  cases a.help.get? name <;> rfl

/-- Help is on one line. -/
private theorem helpFor?_onOneLine (h : a.Made)
    (ha : ∀ name option help, a.helpFor? name option = some help → '\n' ∉ help.toList)
    {es : List Edit} (hes : ∀ e ∈ es, e.OnOneLine) (name option help : String)
    (hhelp : (a.edit es).helpFor? name option = some help) : '\n' ∉ help.toList := by
  -- on the edits: help is what an edit gives, or what was there before
  induction es generalizing a with
  | nil => exact ha name option help hhelp
  | cons e es ih =>
    refine ih (h.after e) (fun name option help hhelp => ?_)
      (fun e' he' => hes e' (List.mem_cons_of_mem e he')) hhelp
    rw [helpFor?_after h.helpPlaced, Option.or_eq_some_iff] at hhelp
    rcases hhelp with hgiven | ⟨-, hhelp⟩
    · have he := hes e List.mem_cons_self
      cases e with
      | set name' option' value? help? =>
        rw [Edit.helpFor?] at hgiven
        split at hgiven
        · exact he.2 help hgiven
        · cases hgiven
      | _ => cases hgiven
    · exact ha name option help hhelp

/-- Help stays until other help is given for the option, however it is spelled then. -/
theorem helpFor?_edit (h : a.Made) {es : List Edit} {name key : String} (hkey : lower key = key)
    (hes : ∀ e ∈ es, ¬ e.GivesHelp name key) :
    (a.edit es).helpFor? name key = a.helpFor? name key := by
  -- on the edits, none of which gives help for the option
  induction es generalizing a with
  | nil => rfl
  | cons e es ih =>
    have hrest := ih (h.after e) fun e' he' => hes e' (List.mem_cons_of_mem e he')
    have hnone : e.helpFor? a name key = none := by
      have he := hes e List.mem_cons_self
      cases e with
      | set name' option value? help? =>
        cases help? with
        | none => simp [Edit.helpFor?]
        | some help =>
          refine if_neg fun hgives => he ⟨hgives.1, ?_⟩
          rw [hgives.2.1, hkey]
      | _ => rfl
    rw [edit_cons, hrest, helpFor?_after h.helpPlaced, hnone, Option.none_or]

end Annotated

open Annotated

/-- The last help for an option, which was given with a value that was stored, stands in the line
    above that of the option if and only if its section has a name, and either the option was spelled
    then as it is stored, or the same help had been recorded under that spelling before. -/
theorem showsHelp_last_iff {before after : List Edit} {name option help : String}
    {value? : Option String} {a : Annotated}
    (hedits : ∀ e ∈ before ++ .set name option value? (some help) :: after, e.OnOneLine)
    (hok : ((Annotated.empty.edit before).set name option value? (some help)).1 = .ok ())
    (hlast : ∀ e ∈ after, ¬ e.GivesHelp name (lower option))
    (ha : Annotated.empty.edit (before ++ .set name option value? (some help) :: after) = a)
    (spaces : Bool) :
    (a.ShowsHelp name (lower option) help ↔ name ≠ "" ∧ (option = lower option ∨
        (Annotated.empty.edit before).helpFor? name (lower option) = some help)) ∧
      (a.write spaces).toList = lineChars spaces a.lines ∧
      (a.document.Every (fun name => '\n' ∉ name.toList) (fun option _ => '\n' ∉ option.toList) →
        splitLines (a.write spaces).toList = a.lines.map fun l => l.chars spaces ++ ['\n']) := by
  have hmade := made_edit .empty before
  have hafter : ∀ e ∈ after, e.OnOneLine := fun e he =>
    hedits e (List.mem_append_right _ (List.mem_cons_of_mem _ he))
  refine ⟨?_, toList_write a spaces, fun hnames => splitLines_write ?_ ?_ spaces⟩
  · -- what is recorded under the spelling that the option is stored with
    have hhelp : a.helpFor? name (lower option) =
        if option = lower option then some help
        else (Annotated.empty.edit before).helpFor? name (lower option) := by
      rw [← ha, edit_append, edit_cons, helpFor?_edit (hmade.after _) (lower_lower option) hlast,
        helpFor?_after hmade.helpPlaced, Edit.helpFor?]
      simp only [true_and, hok, Except.isOk, Except.toBool, and_true]
      split <;> rfl
    obtain ⟨t, ht, hkey⟩ : HasTable a.document name fun t => name ≠ "" → lower option ∈ t.keys := by
      rw [← ha, edit_append, edit_cons]
      refine hasTable_edit (fun t key v hkey hname => ?_) (hasTable_set hmade.unreserved hok) hafter
      exact OrderedMap.mem_keys_put.2 (.inr (hkey hname))
    have hunreserved := ha ▸ (made_edit .empty _).unreserved
    -- shown is what is recorded under the spelling of the line
    rw [showsHelp_iff hunreserved ht, helpOf_get?, hhelp]
    by_cases hname : name = ""
    · -- the option went among the defaults, so that its section is empty
      subst hname
      obtain rfl := nameless_edit hedits (ha ▸ ht)
      simp [OrderedMap.keys, OrderedMap.empty]
    · rw [and_iff_right (hkey hname), and_iff_right hname]
      by_cases hspelled : option = lower option
      · rw [if_pos hspelled]
        exact ⟨fun _ => .inl hspelled, fun _ => rfl⟩
      · rw [if_neg hspelled]
        exact ⟨.inr, fun h => h.resolve_left hspelled⟩
  · -- every option is on one line, names by assumption and values by the edits
    have hvalues := ha ▸ singleLine_edit hedits
    exact ⟨hnames.names, fun e he => ⟨hnames.defaults e he, hvalues.defaults e he⟩,
      fun s hs e he => ⟨hnames.sections s hs e he, hvalues.sections s hs e he⟩⟩
  · intro name option help hhelp
    rw [helpOf_get?, ← ha] at hhelp
    refine helpFor?_onOneLine .empty (fun name option help hnone => ?_) hedits name option help hhelp
    cases hnone

/-- An option is given a value under another spelling than it is stored with. -/
def respelled (value : String) : Edit := .set "a" "K" (some value) none

/-- Help stays above its option when a value is stored under another spelling. -/
theorem showsHelp_last_iff_respelled :
    let es := [respelled "0", .set "a" "k" (some "1") (some "first"), respelled "2", .addSection "b"]
    (Annotated.empty.edit es).ShowsHelp "a" "k" "first" ∧
      splitLines ((Annotated.empty.edit es).write true).toList =
        (Annotated.empty.edit es).lines.map fun l => l.chars true ++ ['\n'] := by
  have hedits : ∀ e ∈ [respelled "0"] ++
      .set "a" "k" (some "1") (some "first") :: [respelled "2", .addSection "b"], e.OnOneLine := by
    simp [respelled, Edit.OnOneLine]
  have hok : ((Annotated.empty.edit [respelled "0"]).set "a" "k" (some "1") (some "first")).1 =
      .ok () := by
    decide +kernel
  have hlast : ∀ e ∈ [respelled "2", .addSection "b"], ¬ e.GivesHelp "a" (lower "k") := by
    simp [respelled, Edit.GivesHelp]
  have hlower : lower "k" = "k" := by decide +kernel
  obtain ⟨hshows, -, hlines⟩ := showsHelp_last_iff hedits hok hlast rfl true
  rw [hlower] at hshows
  exact ⟨hshows.2 ⟨by decide, .inl rfl⟩, hlines (by decide +kernel)⟩

/-- Help that is given for an option under another name than it is stored with is not written. -/
theorem write_respelledHelp :
    (Annotated.empty.set "a" "K" (some "1") (some "first")).1 = .ok () ∧
      (Annotated.empty.set "a" "K" (some "1") (some "first")).2.write true =
        "\n[a]\nk = 1\n#----------------------------------------\n\n" := by
  decide +kernel

end JavaFragments.Ini
