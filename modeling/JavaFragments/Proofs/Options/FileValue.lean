import JavaFragments.Options.Lookup
import JavaFragments.Proofs.Ini.References

/-! # Options in a document

An option is found in a document if there is a section of the options and its key is in that
section or among the defaults.  What is found must be a text, with all its references
replaced, that can be read as a value of the type of the option:

* `isMissing_get`   what goes wrong with an option that is found is not taken for its absence
* `lookupAs_found`, `lookupAs_not_found`   the value of an option in a document -/

namespace JavaFragments

namespace Ini

/-- A section with a table is there. -/
theorem Document.hasSection_of_get? {d : Document} {name : String} {t : Table}
    (h : d.sections.get? name = some t) : d.hasSection name = true := by
  simp [Document.hasSection, OrderedMap.contains, h]

end Ini

namespace Options

open Ini

/-- The keys of options are in lower case. -/
theorem lower_key (n : OptionName) : Text.lower n.key = n.key := by
  cases n <;> decide +kernel

/-- There is a section of the options, and the key is in it or among the defaults. -/
def Found (d : Document) (n : OptionName) : Prop :=
  ∃ t, d.sections.get? optionSection = some t ∧ (n.key ∈ t.keys ∨ n.key ∈ d.defaults.keys)

/-- The value of an option in a document: its text, with the references replaced, read by the
    type of the option. -/
def Reads (d : Document) (n : OptionName) (v : n.type.Carrier) : Prop :=
  ∃ s, d.get optionSection n.key = .ok s ∧ readAs n.type s = .ok v

/-- There is one value at most. -/
theorem Reads.unique {d : Document} {n : OptionName} {v w : n.type.Carrier} (h : Reads d n v)
    (h' : Reads d n w) : v = w := by
  obtain ⟨s, hs, hv⟩ := h
  obtain ⟨t, ht, hw⟩ := h'
  obtain rfl := Except.ok.inj (hs.symm.trans ht)
  exact Except.ok.inj (hv.symm.trans hw)

/-- What is stored for an option that is found. -/
theorem raw_found {d : Document} {n : OptionName} (h : Found d n) :
    ∃ v, d.raw optionSection n.key = .ok v := by
  obtain ⟨t, ht, hkey⟩ := h
  have hsection := Document.hasSection_of_get? ht
  have hfind : d.find? optionSection n.key ≠ none := by
    intro hnone
    rw [Document.find?, ht, Option.bind_some] at hnone
    -- an own value comes first, else the default
    cases hown : t.get? n.key with
    | some v => simp [hown] at hnone
    | none =>
      rw [hown] at hnone
      rcases hkey with hkey | hkey
      · exact (OrderedMap.get?_eq_none_iff _ _).1 hown hkey
      · exact (OrderedMap.get?_eq_none_iff _ _).1 hnone hkey
  obtain ⟨v, hv⟩ := Option.ne_none_iff_exists'.1 hfind
  refine ⟨v, ?_⟩
  simp [Document.raw, hsection, lower_key, hv]

/-- An option that is not found is missing. -/
theorem raw_not_found {d : Document} {n : OptionName} (h : ¬ Found d n) :
    ∃ e, d.raw optionSection n.key = .error e ∧ e.isMissing = true := by
  unfold Document.raw
  -- the section is missing, or the key is
  cases ht : d.sections.get? optionSection with
  | none =>
    have hsection : d.hasSection optionSection = false := by
      simp [Document.hasSection, OrderedMap.contains, ht]
    refine ⟨.noSection optionSection, ?_, rfl⟩
    rw [hsection, if_pos ⟨rfl, by decide⟩]
  | some t =>
    have hsection := Document.hasSection_of_get? ht
    have hown : t.get? n.key = none :=
      (OrderedMap.get?_eq_none_iff _ _).2 fun hkey => h ⟨t, ht, .inl hkey⟩
    have hdefault : d.defaults.get? n.key = none :=
      (OrderedMap.get?_eq_none_iff _ _).2 fun hkey => h ⟨t, ht, .inr hkey⟩
    refine ⟨.noOption n.key optionSection, ?_, rfl⟩
    simp [hsection, lower_key, Document.find?, ht, hown, hdefault]

/-- What goes wrong with an option that is found is never its absence. -/
theorem isMissing_get {d : Document} {n : OptionName} (h : Found d n) {e : Error}
    (he : d.get optionSection n.key = .error e) : e.isMissing = false := by
  obtain ⟨v, hv⟩ := raw_found h
  -- what fails is the look-up, the references or the joining
  rcases bind_eq_error_iff.1 he with hraw | ⟨_, -, he⟩
  · rw [hv] at hraw
    cases hraw
  rcases bind_eq_error_iff.1 he with hexpand | ⟨pieces, -, hjoin⟩
  · exact isMissing_expand hexpand
  · exact isMissing_joinPieces hjoin

/-- Where there is no text, it is either missing or looking it up fails. -/
theorem lookup_of_error {d : Document} {sectionName key : String} {e : Error}
    (h : d.get sectionName key = .error e) :
    lookup d sectionName key = if e.isMissing then .ok none else .error (.ini e) := by
  rw [lookup, h]
  cases e <;> rfl

/-- An option that is not found has no value. -/
theorem lookupAs_not_found {d : Document} {n : OptionName} (h : ¬ Found d n) :
    lookupAs d n.type optionSection n.key = .ok none := by
  obtain ⟨e, hraw, he⟩ := raw_not_found h
  rw [lookupAs, lookup_of_error (Document.get_of_raw_error hraw), he]
  rfl

/-- An option that is found has a value, or looking it up fails. -/
theorem lookupAs_found {d : Document} {n : OptionName} (h : Found d n)
    (r : Option n.type.Carrier) :
    lookupAs d n.type optionSection n.key = .ok r ↔ ∃ v, r = some v ∧ Reads d n v := by
  -- no text that is found is read, or it is read or refused
  cases hget : d.get optionSection n.key with
  | error e =>
    have hlookup : lookup d optionSection n.key = .error (.ini e) := by
      rw [lookup_of_error hget, isMissing_get h hget]
      rfl
    have hnot : ∀ v, ¬ Reads d n v := by
      rintro v ⟨s, hs, -⟩
      rw [hget] at hs
      cases hs
    rw [lookupAs, hlookup]
    simp [hnot, bind, Except.bind]
  | ok s =>
    have hreads : ∀ v, Reads d n v ↔ readAs n.type s = .ok v := by
      intro v
      simp [Reads, hget]
    rw [lookupAs, lookup, hget]
    cases hread : readAs n.type s with
    | error cause =>
      simp [hreads, hread, orUnreadable, bind, Except.bind, Functor.map, Except.map]
    | ok v =>
      simp [hreads, hread, orUnreadable, bind, Except.bind, Functor.map, Except.map, eq_comm]

end Options

end JavaFragments
