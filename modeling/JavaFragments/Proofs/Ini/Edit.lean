import JavaFragments.Proofs.Ini.RefusedValue

/-! # Edits

A document with help is edited in three ways: sections are added, values are stored with or without
help, and texts are read.  An edit may fail, and what it has done until then stays.

* `made_edit`        the documents that edits lead to from a document that is made
* `keys_set`         storing a value adds the section that is missing, and no other one
* `document_set`     what a value that is stored leaves of the document
* `helpFor?_after`   the help for an option is that of the last edit that recorded any -/

namespace JavaFragments.Ini

/-- What is done to a document with help. -/
inductive Edit
  | addSection (name : String)
  | set (sectionName option : String) (value? help? : Option String)
  | read (text : String)

/-- The document after an edit, also after one that fails. -/
def Edit.after (a : Annotated) : Edit → Annotated
  | addSection name => (a.addSection name).2
  | set sectionName option value? help? => (a.set sectionName option value? help?).2
  | read text => (a.readText text).2

/-- The help that an edit records for an option of this spelling. -/
def Edit.helpFor? (a : Annotated) (sectionName option : String) : Edit → Option String
  | set sectionName' option' value? help? =>
    if sectionName' = sectionName ∧ option' = option ∧
        (a.set sectionName' option' value? help?).1.isOk then help? else none
  | _ => none

/-- A section is there if its name is one of the keys. -/
theorem Document.hasSection_iff {d : Document} {name : String} :
    d.hasSection name ↔ name ∈ d.sections.keys := by
  rw [hasSection, OrderedMap.contains, Option.isSome_iff_ne_none, ne_eq,
    OrderedMap.get?_eq_none_iff, Decidable.not_not]

namespace Annotated

/-- The document after edits, one after the other. -/
def edit (a : Annotated) (edits : List Edit) : Annotated := edits.foldl Edit.after a

/-- The help that is recorded for an option of this spelling. -/
def helpFor? (a : Annotated) (sectionName option : String) : Option String :=
  (a.help.get? sectionName).bind (·.get? option)

variable {a : Annotated}

/-- Without edits nothing changes. -/
@[simp] theorem edit_nil (a : Annotated) : a.edit [] = a := rfl

/-- Edits are done one after the other. -/
@[simp] theorem edit_cons (a : Annotated) (e : Edit) (es : List Edit) :
    a.edit (e :: es) = (e.after a).edit es := rfl

/-- So are edits that follow others. -/
@[simp] theorem edit_append (a : Annotated) (es es' : List Edit) :
    a.edit (es ++ es') = (a.edit es).edit es' := List.foldl_append

/-- An edit of what is made makes a document. -/
theorem Made.after (h : a.Made) (e : Edit) : (e.after a).Made := by
  cases e with
  | addSection name => exact .addSection name h
  | set sectionName option value? help? => exact .set sectionName option value? help? h
  | read text => exact .readText text h

/-- What edits lead to is made if they start from what is made. -/
theorem made_edit (h : a.Made) (es : List Edit) : (a.edit es).Made := by
  induction es generalizing a with
  | nil => exact h
  | cons e es ih => exact ih (h.after e)

/-! ## Sections -/

/-- A section is there, or cannot be, or is added with an empty table of help. -/
theorem withSection_eq_or_added (a : Annotated) (name : String) :
    a.withSection name = a ∨ a.document.hasSection name = false ∧
      a.withSection name =
        { document := { a.document with sections := a.document.sections.put name .empty }
          help := a.help.put name .empty } := by
  by_cases hthere : a.document.hasSection name
  · exact .inl (withSection_of_hasSection hthere)
  · have hmissing := Bool.eq_false_iff.2 hthere
    by_cases hname : name = defaultsName
    · obtain ⟨e, hadd⟩ := exists_addSection_error (a := a) (.inr hname)
      exact .inl (by rw [withSection, if_neg hthere, hadd])
    · exact .inr ⟨hmissing, withSection_of_not_hasSection hmissing hname⟩

/-- Where a section is added again, it stays as it is. -/
theorem addSection_eq_withSection (a : Annotated) (name : String) :
    (a.addSection name).2 = a.withSection name := by
  by_cases hthere : a.document.hasSection name
  · obtain ⟨e, hadd⟩ := exists_addSection_error (a := a) (.inl hthere)
    rw [hadd, withSection_of_hasSection hthere]
  · rw [withSection, if_neg hthere]

/-- Storing a value adds the section that is missing, with a table of help, and no other one. -/
theorem keys_set (a : Annotated) (name option : String) (value? help? : Option String) :
    (a.set name option value? help?).2.document.sections.keys =
        (a.withSection name).document.sections.keys ∧
      (a.set name option value? help?).2.help.keys = (a.withSection name).help.keys := by
  -- refused, refused with the section added, or stored
  rcases a.set_cases name option value? help? with
    ⟨hmissing, rfl, hset⟩ | ⟨-, ⟨-, e, -, hset⟩ | ⟨-, r, b, hset, hsections, hhelp, -⟩⟩
  · -- the reserved name is that of no section, and none is added
    obtain ⟨e, hadd⟩ := exists_addSection_error (a := a) (.inr rfl)
    rw [hset, withSection, if_neg (by simp [hmissing]), hadd]
    exact ⟨rfl, rfl⟩
  · rw [hset]
    exact ⟨rfl, rfl⟩
  · rw [hset]
    exact ⟨hsections, hhelp⟩

/-! ## Values -/

/-- No value is stored under the name of the defaults. -/
theorem set_defaults (h : a.document.Unreserved) (option : String) (value? help? : Option String) :
    a.set defaultsName option value? help? = (.error (.reservedSection defaultsName), a) :=
  set_reserved (OrderedMap.contains_eq_false h) option value? help?

/-- The document after a value is stored or refused. -/
private theorem store_document (b : Annotated) (name option : String)
    (value? help? : Option String) :
    (b.store name option value? help?).2.document =
      (b.document.set name option value?).toOption.getD b.document := by
  cases hset : b.document.set name option value? with
  | error e => simp only [store, hset, Except.toOption, Option.getD_none]
  | ok d =>
    simp only [store, hset, Except.toOption, Option.getD_some]
    split <;> rfl

/-- Storing a value adds the section that is missing, and then the value is stored or not. -/
theorem document_set (a : Annotated) (name option : String) (value? help? : Option String) :
    (a.set name option value? help?).2.document = (a.withSection name).document ∨
      ∃ value, value? = some value ∧ (a.withSection name).document.set name option (some value) =
        .ok (a.set name option value? help?).2.document := by
  -- a value is stored unless the section is missing and cannot be added
  by_cases hthere : a.document.hasSection name ∨ name ≠ defaultsName
  · rw [set_eq_store hthere, store_document]
    cases hset : (a.withSection name).document.set name option value? with
    | error e => exact .inl rfl
    | ok d =>
      cases value? with
      | none => cases hset
      | some value => exact .inr ⟨value, rfl, hset⟩
  · obtain ⟨hmissing, hname⟩ := not_or.1 hthere
    obtain rfl := Decidable.not_not.1 hname
    rw [set_reserved (Bool.eq_false_iff.2 hmissing), ← addSection_eq_withSection]
    obtain ⟨e, hadd⟩ := exists_addSection_error (a := a) (.inr rfl)
    exact .inl (by rw [hadd])

/-- A value that was stored is in the document. -/
theorem documentSet_of_set_ok {name option : String} {value? help? : Option String}
    (hthere : a.document.hasSection name ∨ name ≠ defaultsName)
    (hok : (a.set name option value? help?).1 = .ok ()) :
    ∃ value, value? = some value ∧ (a.withSection name).document.set name option (some value) =
      .ok (a.set name option value? help?).2.document := by
  rw [set_eq_store hthere] at hok ⊢
  rw [store_document]
  -- a value that is refused would be a failure
  cases hset : (a.withSection name).document.set name option value? with
  | error e =>
    simp only [store, hset] at hok
    cases hok
  | ok d =>
    cases value? with
    | none => cases hset
    | some value => exact ⟨value, rfl, hset⟩

/-! ## Help -/

/-- A section that is not there has no help. -/
private theorem help_of_not_hasSection (h : a.HelpPlaced) {name : String}
    (hmissing : a.document.hasSection name = false) : a.help.get? name = none := by
  rw [OrderedMap.get?_eq_none_iff]
  intro hmem
  have hsection := Document.hasSection_iff.2 (h name hmem)
  exact Bool.false_ne_true (hmissing.symm.trans hsection)

/-- A section that is added has no help yet, and no help is lost. -/
private theorem helpFor?_withSection (h : a.HelpPlaced) (name sectionName option : String) :
    (a.withSection name).helpFor? sectionName option = a.helpFor? sectionName option := by
  rcases a.withSection_eq_or_added name with heq | ⟨hmissing, heq⟩ <;> rw [heq]
  simp only [helpFor?, OrderedMap.get?_put]
  split
  · -- its table is new and empty, and there was none before
    rename_i hname
    rw [← hname, help_of_not_hasSection h hmissing]
    rfl
  · rfl

/-- Help is recorded where it is given and the value is stored, if there is a place for it. -/
private theorem helpFor?_store (a : Annotated) (name option : String) (value? help? : Option String)
    (sectionName option' : String) :
    (a.store name option value? help?).2.helpFor? sectionName option' =
      (if name = sectionName ∧ option = option' ∧
        (a.store name option value? help?).1.isOk then help? else none).or
          (a.helpFor? sectionName option') := by
  cases hset : a.document.set name option value? with
  | error e => simp [store, hset, Except.isOk, Except.toBool]
  | ok d =>
    cases help? with
    | none => simp [store, hset, helpFor?]
    | some help =>
      -- help needs a table for the section
      cases htable : a.help.get? name with
      | none => simp [store, hset, htable, helpFor?, Except.isOk, Except.toBool]
      | some table =>
        simp only [store, hset, htable, helpFor?, OrderedMap.get?_put]
        by_cases hname : name = sectionName
        · subst hname
          by_cases hoption : option = option'
          · simp [hoption, OrderedMap.get?_put, Except.isOk, Except.toBool]
          · simp [hoption, htable, OrderedMap.get?_put]
        · simp [hname]

/-- The help for an option is what the last edit recorded for it, or else what there was. -/
theorem helpFor?_after (h : a.HelpPlaced) (e : Edit) (sectionName option : String) :
    (e.after a).helpFor? sectionName option =
      (e.helpFor? a sectionName option).or (a.helpFor? sectionName option) := by
  cases e with
  | addSection name =>
    rw [Edit.after, addSection_eq_withSection]
    exact helpFor?_withSection h name sectionName option
  | read text => rfl
  | set name option' value? help? =>
    simp only [Edit.after, Edit.helpFor?]
    by_cases hthere : a.document.hasSection name ∨ name ≠ defaultsName
    · rw [set_eq_store hthere, helpFor?_store, helpFor?_withSection h]
    · -- the name of the defaults is refused, and nothing is recorded
      obtain ⟨hmissing, hname⟩ := not_or.1 hthere
      obtain rfl := Decidable.not_not.1 hname
      simp [set_reserved (Bool.eq_false_iff.2 hmissing), Except.isOk, Except.toBool]

end Annotated

end JavaFragments.Ini
