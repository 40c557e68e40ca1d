import Mathlib.Data.List.Induction
import JavaFragments.Proofs.Ini.Edit

/-! # Sections that help cannot be recorded for

A section that is added comes with a table of help.  A section that is read comes without one, and
none is added later, so help for it is refused after the value was stored:

* `bare_after`          which sections are without a table of help after an edit
* `bare_edit_iff`       they are those that came into being when a text was read
* `set_helped_iff`      so a value that can be stored can be stored with help in all others -/

namespace JavaFragments.Ini

namespace Annotated

/-- A section has no table of help. -/
def Bare (a : Annotated) (name : String) : Prop :=
  name ∈ a.document.sections.keys ∧ name ∉ a.help.keys

/-- A section came into being when a text was read. -/
def CameByReading (es : List Edit) (name : String) : Prop :=
  ∃ before text, before ++ [.read text] <+: es ∧
    (empty.edit before).document.hasSection name = false ∧
    (empty.edit (before ++ [.read text])).document.hasSection name

variable {a : Annotated}

/-! ## Sections without a table of help -/

/-- A section that is added has a table of help. -/
private theorem bare_withSection (a : Annotated) (other name : String) :
    (a.withSection other).Bare name ↔ a.Bare name := by
  rcases a.withSection_eq_or_added other with heq | ⟨hmissing, heq⟩ <;> rw [heq]
  simp only [Bare, OrderedMap.mem_keys_put, not_or]
  constructor
  · rintro ⟨hsection, hother, hhelp⟩
    exact ⟨hsection.resolve_left hother, hhelp⟩
  · rintro ⟨hsection, hhelp⟩
    refine ⟨.inr hsection, ?_, hhelp⟩
    rintro rfl
    exact Bool.false_ne_true (hmissing.symm.trans (Document.hasSection_iff.2 hsection))

/-- A section that is read has no table of help. -/
private theorem bare_readText (h : a.HelpPlaced) (text name : String) :
    (a.readText text).2.Bare name ↔ a.Bare name ∨ a.document.hasSection name = false ∧
      (a.readText text).2.document.hasSection name := by
  have hkept : ∀ other ∈ a.document.sections.keys,
      other ∈ (a.readText text).2.document.sections.keys :=
    (lasting_sections a.document.sections.keys).readLines (fun _ => id) Document.textSource _
  -- a section that was there keeps what it has
  by_cases hthere : name ∈ a.document.sections.keys
  · have hsection := Document.hasSection_iff.2 hthere
    simp only [hsection, Bool.true_eq_false, false_and, or_false]
    exact and_congr_left fun _ => ⟨fun _ => hthere, hkept name⟩
  · have hmissing : a.document.hasSection name = false := by
      rwa [Bool.eq_false_iff, ne_eq, Document.hasSection_iff]
    -- one that is read has no help, as help was kept for sections only
    have hnohelp : name ∉ a.help.keys := fun hmem => hthere (h name hmem)
    have hbare : ¬ a.Bare name := fun hbare => hthere hbare.1
    simp only [hmissing, hbare, false_or, true_and, Document.hasSection_iff]
    exact and_iff_left hnohelp

/-- A section is without a table of help if it was before, or if it was just read. -/
theorem bare_after (h : a.HelpPlaced) (e : Edit) (name : String) :
    (e.after a).Bare name ↔ a.Bare name ∨ (∃ text, e = .read text) ∧
      a.document.hasSection name = false ∧ (e.after a).document.hasSection name := by
  -- a section is added with a table, a value adds none, and reading adds none
  cases e with
  | addSection other =>
    rw [Edit.after, addSection_eq_withSection, bare_withSection]
    simp
  | set other option value? help? =>
    obtain ⟨hsections, hhelp⟩ := a.keys_set other option value? help?
    rw [Edit.after, Bare, hsections, hhelp]
    simp only [reduceCtorEq, exists_false, false_and, or_false]
    exact a.bare_withSection other name
  | read text => simpa [Edit.after] using bare_readText h text name

/-! ## How a section came into being -/

/-- One edit more is how a section came into being, or it was there before. -/
private theorem cameByReading_concat (es : List Edit) (e : Edit) (name : String) :
    CameByReading (es ++ [e]) name ↔ CameByReading es name ∨ (∃ text, e = .read text) ∧
      (empty.edit es).document.hasSection name = false ∧
      (empty.edit (es ++ [e])).document.hasSection name := by
  simp only [CameByReading, List.prefix_concat_iff, or_and_right, exists_or]
  rw [or_comm]
  -- what is left is the last edit
  refine or_congr Iff.rfl ⟨?_, ?_⟩
  · rintro ⟨before, text, heq, hmissing, hthere⟩
    obtain ⟨rfl, hlast⟩ := List.append_inj' heq rfl
    obtain rfl := List.singleton_inj.1 hlast
    exact ⟨⟨text, rfl⟩, hmissing, hthere⟩
  · rintro ⟨⟨text, rfl⟩, hmissing, hthere⟩
    exact ⟨es, text, rfl, hmissing, hthere⟩

/-- The sections without a table of help are those that came into being when a text was read. -/
theorem bare_edit_iff (es : List Edit) (name : String) :
    (empty.edit es).Bare name ↔ CameByReading es name := by
  -- on the edits from the last one back: what is read later is not what a section came by
  induction es using List.reverseRecOn with
  | nil => simp [Bare, CameByReading, empty, Document.empty, OrderedMap.keys, OrderedMap.empty]
  | append_singleton es e ih =>
    have hplaced := (made_edit .empty es).helpPlaced
    rw [cameByReading_concat, ← ih, edit_append]
    exact bare_after hplaced e name

/-! ## Values with help -/

/-- A value that is stored without help is stored with help as well; then the help is put into the
    table of its section, or is refused where there is none. -/
private theorem set_helped_cases {plain : Annotated} {name option : String} {value? : Option String}
    (h : a.set name option value? none = (.ok (), plain)) (help : String) :
    (plain.Bare name ∧
        a.set name option value? (some help) = (.error (.noHelpTable name), plain)) ∨
      ∃ table, plain.help.get? name = some table ∧ a.set name option value? (some help) =
        (.ok (), { plain with help := plain.help.put name (table.put option help) }) := by
  by_cases hthere : a.document.hasSection name ∨ name ≠ defaultsName
  · -- the section is there once the value is stored
    have hsection : name ∈ plain.document.sections.keys := by
      have hkeys := (a.keys_set name option value? none).1
      rw [h] at hkeys
      rw [hkeys]
      exact Document.hasSection_iff.1 (hasSection_withSection hthere)
    rw [set_eq_store hthere] at h ⊢
    generalize a.withSection name = b at h ⊢
    -- the value is stored without help, so it is stored with it
    cases hset : b.document.set name option value? with
    | error e => simp [store, hset] at h
    | ok d =>
      obtain rfl : { b with document := d } = plain := by simpa [store, hset] using h
      cases htable : b.help.get? name with
      | none =>
        have hnone := (OrderedMap.get?_eq_none_iff _ _).1 htable
        exact .inl ⟨⟨hsection, hnone⟩, by simp [store, hset, htable]⟩
      | some table => exact .inr ⟨table, rfl, by simp [store, hset, htable]⟩
  · -- no value is stored under the reserved name
    obtain ⟨hmissing, hname⟩ := not_or.1 hthere
    obtain rfl := Decidable.not_not.1 hname
    rw [set_reserved (Bool.eq_false_iff.2 hmissing)] at h
    cases congrArg Prod.fst h

end Annotated

open Annotated

/-- A value that can be stored without help can be stored with help, to the same effect but for the
    help that is recorded, if and only if its section did not come into being when a text was read.
    Else the value is stored all the same, and the help is refused. -/
theorem set_helped_iff {es : List Edit} {plain : Annotated} {name option : String}
    {value? : Option String}
    (h : (Annotated.empty.edit es).set name option value? none = (.ok (), plain)) (help : String) :
    ∃ r helped, (Annotated.empty.edit es).set name option value? (some help) = (r, helped) ∧
      helped.document = plain.document ∧
      (r = .ok () ↔ ¬ CameByReading es name) ∧
      (CameByReading es name → r = .error (.noHelpTable name) ∧ helped = plain) ∧
      (¬ CameByReading es name → ∀ sectionName option', helped.helpFor? sectionName option' =
        if sectionName = name ∧ option' = option then some help
        else plain.helpFor? sectionName option') := by
  -- whether a section has a table of help is the same with the value and without it
  have hbare : plain.Bare name ↔ CameByReading es name := by
    have hplaced := (made_edit .empty es).helpPlaced
    have hafter := bare_after hplaced (.set name option value? none) name
    simp only [Edit.after, h, reduceCtorEq, exists_false, false_and, or_false] at hafter
    rw [hafter, bare_edit_iff]
  rcases set_helped_cases h help with ⟨hnone, hset⟩ | ⟨table, htable, hset⟩
  · have hread := hbare.1 hnone
    exact ⟨_, _, hset, rfl, by simp [hread], fun _ => ⟨rfl, rfl⟩, fun hnot => absurd hread hnot⟩
  · have hnot : ¬ CameByReading es name := by
      intro hread
      have hnone := (OrderedMap.get?_eq_none_iff _ _).2 (hbare.2 hread).2
      cases htable.symm.trans hnone
    refine ⟨_, _, hset, rfl, by simp [hnot], fun hread => absurd hread hnot, fun _ => ?_⟩
    intro sectionName option'
    simp only [helpFor?, OrderedMap.get?_put]
    by_cases hname : name = sectionName
    · subst hname
      by_cases hoption : option = option'
      · simp [hoption, OrderedMap.get?_put]
      · simp [htable, hoption, Ne.symm hoption, OrderedMap.get?_put]
    · simp [hname, Ne.symm hname]

/-- A section that is read, and one that is added and has help already. -/
def readAndAdded : List Edit :=
  [.read "[a]\nk = 1\n", .addSection "b", .set "b" "x" (some "2") (some "first")]

/-- The first section came into being when the text was read. -/
private theorem cameByReading_readAndAdded : CameByReading readAndAdded "a" :=
  ⟨[], "[a]\nk = 1\n", ⟨_, rfl⟩, rfl, by decide +kernel⟩

/-- Help is refused for the section that was read, and recorded for the one that was added. -/
theorem set_helped_iff_readAndAdded :
    (∃ plain, (Annotated.empty.edit readAndAdded).set "a" "k" (some "%(x)s") none = (.ok (), plain) ∧
      (Annotated.empty.edit readAndAdded).set "a" "k" (some "%(x)s") (some "second") =
        (.error (.noHelpTable "a"), plain)) ∧
    ∃ helped, (Annotated.empty.edit readAndAdded).set "b" "y" (some "%(x)s") (some "second") =
        (.ok (), helped) ∧
      helped.helpFor? "b" "x" = some "first" ∧ helped.helpFor? "b" "y" = some "second" := by
  constructor
  · have hplain : ((Annotated.empty.edit readAndAdded).set "a" "k" (some "%(x)s") none).1 = .ok () := by
      decide +kernel
    refine ⟨_, Prod.ext hplain rfl, ?_⟩
    obtain ⟨r, helped, hset, -, -, hrefused, -⟩ := set_helped_iff (Prod.ext hplain rfl) "second"
    obtain ⟨rfl, rfl⟩ := hrefused cameByReading_readAndAdded
    exact hset
  · have hplain : ((Annotated.empty.edit readAndAdded).set "b" "y" (some "%(x)s") none).1 = .ok () := by
      decide +kernel
    obtain ⟨r, helped, hset, -, hok, -, hhelp⟩ := set_helped_iff (Prod.ext hplain rfl) "second"
    obtain rfl : r = .ok () := (congrArg Prod.fst hset).symm.trans (by decide +kernel)
    refine ⟨helped, hset, ?_, ?_⟩ <;> rw [hhelp (hok.1 rfl)]
    · decide +kernel
    · decide +kernel

/-- Help for an option of a section that was read is refused, where the value is stored without
    it. -/
theorem set_helped_readSection :
    (Annotated.empty.readText "[a]\n").1 = .ok () ∧
      ((Annotated.empty.readText "[a]\n").2.set "a" "k" (some "1") none).1 = .ok () ∧
      ((Annotated.empty.readText "[a]\n").2.set "a" "k" (some "1") (some "first")).1 =
        .error (.noHelpTable "a") := by
  decide +kernel

end JavaFragments.Ini
