import JavaFragments.Proofs.Ini.Reserved

/-! # What a refused value leaves

A section is added before the value for it is looked at, so a value that is refused leaves a
section behind where there was none:

* `Annotated.Made.helpPlaced`   help is kept for sections only
* `set_refusesValue`            which values are refused, and what each of them leaves -/

namespace JavaFragments.Ini

namespace Annotated

/-- Every table of help is that of a section. -/
def HelpPlaced (a : Annotated) : Prop := ∀ name ∈ a.help.keys, name ∈ a.document.sections.keys

variable {a : Annotated}

/-! ## Help belongs to sections -/

/-- Reading loses no section. -/
theorem lasting_sections (names : List String) :
    Document.Lasting fun d => ∀ name ∈ names, name ∈ d.sections.keys where
  modifyTable h name f other hother := by
    unfold Document.modifyTable
    split
    · exact h other hother
    · simpa only [OrderedMap.keys_modify] using h other hother
  put h _ _ other hother := OrderedMap.mem_keys_put.2 (.inr (h other hother))
  settle h other hother := by
    simpa only [Document.settle, OrderedMap.keys_map] using h other hother

/-- A section is added together with its table of help. -/
private theorem helpPlaced_addSection (h : a.HelpPlaced) (name : String) :
    (a.addSection name).2.HelpPlaced := by
  by_cases hadd : a.document.hasSection name ∨ name = defaultsName
  · obtain ⟨e, he⟩ := exists_addSection_error hadd
    rwa [he]
  · obtain ⟨hmissing, hname⟩ := not_or.1 hadd
    rw [addSection_eq_ok (Bool.eq_false_iff.2 hmissing) hname]
    intro other hother
    rcases OrderedMap.mem_keys_put.1 hother with rfl | hother
    · exact OrderedMap.mem_keys_put.2 (.inl rfl)
    · exact OrderedMap.mem_keys_put.2 (.inr (h other hother))

/-- Storing a value adds help to a section only. -/
private theorem helpPlaced_set (h : a.HelpPlaced) (sectionName option : String)
    (value? help? : Option String) : (a.set sectionName option value? help?).2.HelpPlaced :=
  set_keeps (I := HelpPlaced) (fun _ name h => helpPlaced_addSection h name)
    (fun _ _ hkeys hhelp h => by rwa [HelpPlaced, hkeys, hhelp]) h sectionName option value? help?

/-- Help is kept for sections only, whatever was done to make the document. -/
theorem Made.helpPlaced (h : a.Made) : a.HelpPlaced := by
  -- on how the document was made; a text that is read adds sections and no help
  induction h with
  | empty => exact nofun
  | addSection name _ ih => exact helpPlaced_addSection ih name
  | set sectionName option value? help? _ ih =>
    exact helpPlaced_set ih sectionName option value? help?
  | @readText a text _ ih =>
    exact (lasting_sections a.help.keys).readLines ih Document.textSource _

end Annotated

/-! ## Refused values -/

variable {a : Annotated}

/-- A section that is missing is added behind the others, and help for it behind the other help. -/
private theorem entries_withSection (h : a.Made) {name : String} (hname : name ≠ defaultsName)
    (hmissing : a.document.hasSection name = false) :
    (a.withSection name).document.defaults = a.document.defaults ∧
      (a.withSection name).document.sections.entries =
        a.document.sections.entries ++ [(name, .empty)] ∧
      (a.withSection name).help.entries = a.help.entries ++ [(name, .empty)] := by
  have hnot : name ∉ a.document.sections.keys :=
    (OrderedMap.get?_eq_none_iff _ _).1 (Option.not_isSome_iff_eq_none.1 (Bool.eq_false_iff.1 hmissing))
  have hnohelp : name ∉ a.help.keys := fun hmem => hnot (h.helpPlaced name hmem)
  rw [Annotated.withSection_of_not_hasSection hmissing hname]
  exact ⟨rfl, OrderedMap.entries_put_of_not_mem hnot _, OrderedMap.entries_put_of_not_mem hnohelp _⟩

/-- In every document that can be made, a value is refused for what it is if it is no text or has a
    percent sign without meaning, except for the defaults, of which no section can be made.  It
    leaves everything as it was if and only if the section was there; otherwise an empty section
    and an empty table of help stay behind the others, and nothing else has changed. -/
theorem set_refusesValue (h : a.Made) (name option : String) (value? help? : Option String) :
    ((∃ e, e.RefusesValue ∧ (a.set name option value? help?).1 = .error e) ↔
        name ≠ defaultsName ∧ ¬ Storable value?) ∧
      ∀ e b, e.RefusesValue → a.set name option value? help? = (.error e, b) →
        (b = a ↔ a.document.hasSection name) ∧
          (a.document.hasSection name = false →
            b.document.defaults = a.document.defaults ∧
            b.document.sections.entries = a.document.sections.entries ++ [(name, .empty)] ∧
            b.help.entries = a.help.entries ++ [(name, .empty)]) := by
  have hreserved : a.document.hasSection defaultsName = false :=
    OrderedMap.contains_eq_false h.unreserved
  -- refused as a reserved name, refused as a value, or stored
  rcases a.set_cases name option value? help? with
    ⟨-, hname, hset⟩ | ⟨hthere, ⟨hrefused, e, he, hset⟩ | ⟨hstorable, r, b, hset, -, -, hr⟩⟩
  · -- what is refused is the name
    have hnot : ∀ e, e.RefusesValue → (a.set name option value? help?).1 ≠ .error e := by
      rintro e he heq
      rw [hset] at heq
      cases Except.error.inj heq
      cases he
    exact ⟨⟨fun ⟨e, he, heq⟩ => (hnot e he heq).elim, fun h => (h.1 hname).elim⟩,
      fun e b he heq => (hnot e he (congrArg Prod.fst heq)).elim⟩
  · have hname : name ≠ defaultsName := by
      rintro rfl
      exact hthere.elim (fun hmem => Bool.false_ne_true (hreserved.symm.trans hmem)) fun hne => hne rfl
    refine ⟨⟨fun _ => ⟨hname, hrefused⟩, fun _ => ⟨e, he, congrArg Prod.fst hset⟩⟩, ?_⟩
    intro e' b _ hset'
    obtain rfl : a.withSection name = b := congrArg Prod.snd (hset.symm.trans hset')
    refine ⟨⟨fun heq => ?_, Annotated.withSection_of_hasSection⟩, entries_withSection h hname⟩
    exact heq ▸ Annotated.hasSection_withSection (.inr hname)
  · -- what is refused after the value was stored is the help
    have hnot : ∀ e, e.RefusesValue → (a.set name option value? help?).1 ≠ .error e := by
      rintro e he heq
      rw [hset] at heq
      cases hr e heq
      cases he
    exact ⟨⟨fun ⟨e, he, heq⟩ => (hnot e he heq).elim, fun h => (h.2 hstorable).elim⟩,
      fun e b he heq => (hnot e he (congrArg Prod.fst heq)).elim⟩

/-- A document that was read and then added to. -/
def grown : Annotated :=
  ((Annotated.empty.readText "[a]\nk = 1\n").2.set "b" "x" (some "%(k)s") (some "first")).2

/-- It was made by reading and storing. -/
theorem grown_made : grown.Made := .set _ _ _ _ (.readText _ .empty)

/-- Two values with a stray percent sign, for a section that is missing and for one that is
    there. -/
theorem set_refusesValue_grown :
    grown.Made ∧ (∃ e, e.RefusesValue ∧ (grown.set "c" "y" (some "100%") none).1 = .error e) ∧
      (grown.set "a" "k" (some "%(") none).2 = grown := by
  -- a value with a percent sign that is left over cannot be stored
  have hstray : ∀ value, '%' ∈ withoutReferences (withoutPairs value.toList) →
      ¬ Storable (some value) := by
    rintro value hmem ⟨value', heq, hplain⟩
    exact hplain (Option.some.inj heq ▸ hmem)
  refine ⟨grown_made, ?_, ?_⟩
  · exact (set_refusesValue grown_made "c" "y" (some "100%") none).1.2
      ⟨by decide, hstray _ (by decide +kernel)⟩
  · obtain ⟨e, he, heq⟩ := (set_refusesValue grown_made "a" "k" (some "%(") none).1.2
      ⟨by decide, hstray _ (by decide +kernel)⟩
    exact ((set_refusesValue grown_made "a" "k" (some "%(") none).2 e _ he
      (Prod.ext heq rfl)).1.2 (by decide +kernel)

/-- A section and its help come into being with a value that is refused. -/
theorem keys_set_strayPercent :
    Annotated.empty.Made ∧ (Error.strayPercentStored "%" 0).RefusesValue ∧
      (Annotated.empty.set "a" "k" (some "%") none).1 = .error (.strayPercentStored "%" 0) ∧
      Annotated.empty.document.sections.keys = [] ∧
      (Annotated.empty.set "a" "k" (some "%") none).2.document.sections.keys = ["a"] ∧
      (Annotated.empty.set "a" "k" (some "%") none).2.help.keys = ["a"] :=
  ⟨.empty, .strayPercent "%" 0, by cbv, rfl, by decide +kernel, by decide +kernel⟩

end JavaFragments.Ini
