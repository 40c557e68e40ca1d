import JavaFragments.Proofs.Ini.Edit

/-! # Values without help

A document with help adds the section that is missing before it stores a value in its document.  So
a value without help is stored as in the document alone where the section is there, and the defaults
are no section:

* `set_plain`              where the section is there, the value is stored in the document alone
* `keys_afterSet`          a document alone adds no section
* `set_eq_afterSet_iff`    values are stored alike in no other sections, and so not in the defaults
* `document_edit_plain`    many values are stored as in the document alone, but for the defaults -/

namespace JavaFragments.Ini

/-- Stores a value in the document alone, and what was there before a failure stays. -/
def Document.afterSet (d : Document) (name option : String) (value? : Option String) :
    Except Error Unit × Document :=
  match d.set name option value? with
  | .error e => (.error e, d)
  | .ok d' => (.ok (), d')

/-- A document alone adds no section. -/
theorem Document.keys_afterSet (d : Document) (name option : String) (value? : Option String) :
    (d.afterSet name option value?).2.sections.keys = d.sections.keys := by
  -- a failure leaves the document as it was
  cases hset : d.set name option value? with
  | error e => simp only [afterSet, hset]
  | ok d' =>
    cases value? with
    | none => cases hset
    | some value =>
      simp only [afterSet, hset]
      rcases documentSet_eq_ok hset with ⟨-, rfl⟩ | ⟨-, rfl⟩
      · rfl
      · exact OrderedMap.keys_modify ..

/-- What comes of a value for a section that is there, or for the defaults. -/
private theorem Document.afterSet_cases {d : Document} {name : String}
    (h : d.hasSection name ∨ name = defaultsName) (option : String) (value? : Option String) :
    ((d.afterSet name option value?).1 = .ok () ∧ Storable value?) ∨
      (¬ Storable value? ∧ ∃ e, e.RefusesValue ∧ d.afterSet name option value? = (.error e, d)) := by
  rcases documentSet_cases h option value? with ⟨hrefused, e, he, hset⟩ | ⟨hstorable, d', hset, -⟩
  · exact .inr ⟨hrefused, e, he, by simp only [afterSet, hset]⟩
  · exact .inl ⟨by simp only [afterSet, hset], hstorable⟩

namespace Annotated

variable {a : Annotated}

/-- Where the section is there, a value without help is stored in the document alone. -/
theorem set_plain {name : String} (h : a.document.hasSection name) (option : String)
    (value? : Option String) :
    a.set name option value? none =
      ((a.document.afterSet name option value?).1,
        { a with document := (a.document.afterSet name option value?).2 }) := by
  rw [set_eq_store (.inl h), withSection_of_hasSection h, store, Document.afterSet]
  cases a.document.set name option value? <;> rfl

/-- Where it is not there, either it is the reserved one or it is there afterwards. -/
private theorem set_missing {name : String} (h : a.document.hasSection name = false)
    (option : String) (value? : Option String) :
    (name = defaultsName ∧ a.set name option value? none = (.error (.reservedSection name), a)) ∨
      (name ≠ defaultsName ∧
        (a.set name option value? none).2.document.hasSection name) := by
  by_cases hname : name = defaultsName
  · subst hname
    exact .inl ⟨rfl, set_reserved h option value? none⟩
  · refine .inr ⟨hname, ?_⟩
    rw [Document.hasSection_iff, (a.keys_set name option value? none).1, ← Document.hasSection_iff]
    exact hasSection_withSection (.inr hname)

end Annotated

open Annotated

/-! ## One value after the other -/

/-- A value for an option. -/
structure Setting where
  sectionName : String
  option : String
  value? : Option String

/-- A value that is stored without help. -/
def Setting.edit (s : Setting) : Edit := .set s.sectionName s.option s.value? none

/-- What storing a value leaves of a document alone. -/
def Document.setting (d : Document) (s : Setting) : Document :=
  (d.afterSet s.sectionName s.option s.value?).2

/-- Values without help for sections that are there, and for the defaults, leave what those for
    sections leave of the document alone. -/
theorem document_edit_plain {a : Annotated} (h : a.Made) {ss : List Setting}
    (hss : ∀ s ∈ ss, a.document.hasSection s.sectionName ∨ s.sectionName = defaultsName) :
    (a.edit (ss.map Setting.edit)).document =
      (ss.filter (·.sectionName ≠ defaultsName)).foldl Document.setting a.document := by
  -- a value for the defaults is passed over, and one for a section leaves the sections that are there
  induction ss generalizing a with
  | nil => rfl
  | cons s ss ih =>
    have hrest : ∀ s' ∈ ss, a.document.hasSection s'.sectionName ∨ s'.sectionName = defaultsName :=
      fun s' hs' => hss s' (List.mem_cons_of_mem s hs')
    rw [List.map_cons, edit_cons]
    by_cases hdefaults : s.sectionName = defaultsName
    · have hafter : s.edit.after a = a := by
        rw [Setting.edit, hdefaults, Edit.after, set_defaults h.unreserved]
      rw [hafter, List.filter_cons_of_neg (by simpa using hdefaults), ih h hrest]
    · have hthere := (hss s List.mem_cons_self).resolve_right hdefaults
      have hafter : (s.edit.after a).document = a.document.setting s := by
        rw [Setting.edit, Edit.after, set_plain hthere]
        rfl
      have hkeys : (s.edit.after a).document.sections.keys = a.document.sections.keys := by
        rw [hafter]
        exact Document.keys_afterSet ..
      rw [List.filter_cons_of_pos (by simpa using hdefaults), List.foldl_cons, ← hafter]
      refine ih (h.after _) fun s' hs' => (hrest s' hs').imp_left fun hthere' => ?_
      rwa [Document.hasSection_iff, hkeys, ← Document.hasSection_iff]

/-! ## Where values are stored alike -/

/-- A value without help is stored or refused as in the document alone, to the same effect, if and
    only if its section is there.  Where the reserved name is that of no section, as in all documents
    that are made, a value for the defaults is refused and changes nothing; the document alone stores
    it if it can be stored at all. -/
theorem set_eq_afterSet_iff (a : Annotated) (name option : String) (value? : Option String) :
    (((a.set name option value? none).1, (a.set name option value? none).2.document) =
        a.document.afterSet name option value? ↔ a.document.hasSection name) ∧
      (a.document.Unreserved →
        a.set defaultsName option value? none = (.error (.reservedSection defaultsName), a) ∧
          ((a.document.afterSet defaultsName option value?).1 = .ok () ↔ Storable value?)) := by
  have hdefaults := Document.afterSet_cases (d := a.document) (.inr rfl) option value?
  -- to the same effect only if the section is there, and if it is
  refine ⟨⟨fun hsame => ?_, fun hthere => ?_⟩, fun h => ⟨?_, ?_⟩⟩
  · cases hthere : a.document.hasSection name with
    | true => rfl
    | false =>
      rcases set_missing hthere option value? with ⟨rfl, hset⟩ | ⟨-, hadded⟩
      · -- the document alone refuses no name
        rw [hset] at hsame
        rcases hdefaults with ⟨hok, -⟩ | ⟨-, e, he, hrefused⟩
        · cases (congrArg Prod.fst hsame).trans hok
        · rw [hrefused] at hsame
          cases Except.error.inj (congrArg Prod.fst hsame)
          cases he
      · -- the document alone adds no section
        have hkeys := a.document.keys_afterSet name option value?
        rw [← hsame] at hkeys
        rw [Document.hasSection_iff, hkeys, ← Document.hasSection_iff] at hadded
        exact hthere.symm.trans hadded
  · rw [set_plain hthere]
  · exact set_defaults h option value? none
  · rcases hdefaults with ⟨hok, hstorable⟩ | ⟨hrefused, e, -, heq⟩
    · exact iff_of_true hok hstorable
    · refine iff_of_false (fun hok => ?_) hrefused
      rw [heq] at hok
      cases hok

/-- A section and a default that were read. -/
def readWithDefault : Annotated := (Annotated.empty.readText "[DEFAULT]\nx = 1\n[a]\nk = 2\n").2

/-- A default is refused after a text with defaults was read, and a value for its section is
    stored. -/
theorem set_eq_afterSet_iff_readWithDefault :
    readWithDefault.document.Unreserved ∧
      readWithDefault.set defaultsName "x" (some "2") none =
        (.error (.reservedSection defaultsName), readWithDefault) ∧
      (readWithDefault.set "a" "k" (some "%(x)s") none).2.document =
        (readWithDefault.document.afterSet "a" "k" (some "%(x)s")).2 := by
  have hmade : readWithDefault.Made := .readText _ .empty
  have hthere : readWithDefault.document.hasSection "a" := by decide +kernel
  refine ⟨hmade.unreserved, ?_, ?_⟩
  · exact ((set_eq_afterSet_iff readWithDefault "a" "x" (some "2")).2 hmade.unreserved).1
  · exact congrArg Prod.snd ((set_eq_afterSet_iff readWithDefault "a" "k" (some "%(x)s")).1.2 hthere)

/-- A value for the defaults is refused, and stored in the document alone. -/
theorem set_defaults_refused :
    (Annotated.empty.set defaultsName "k" (some "1") none).1 =
        .error (.reservedSection defaultsName) ∧
      (Annotated.empty.set defaultsName "k" (some "1") none).2.document.defaults.entries = [] ∧
      (Annotated.empty.document.afterSet defaultsName "k" (some "1")).1.isOk ∧
      (Annotated.empty.document.afterSet defaultsName "k" (some "1")).2.defaults.entries =
        [("k", .text "1")] :=
  ⟨rfl, rfl, by decide +kernel, by decide +kernel⟩

end JavaFragments.Ini
