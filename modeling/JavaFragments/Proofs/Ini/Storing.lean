import JavaFragments.Ini.Annotated

/-! # Storing a value

A value is stored in three steps: a section is added where there is none, the value goes into its
table, and the help goes beside it.  A value can be refused in the second step only, and then for
what it is:

* `documentSet_cases`   a value is stored, or refused as no text or for a percent sign
* `documentSet_eq_ok`   what a value that is stored changes
* `store_cases`         what comes of the last two steps
* `set_cases`           what comes of all three
* `set_keeps`           what depends on the names of sections only and outlives a new section -/

namespace JavaFragments.Ini

/-- A value is refused for what it is. -/
inductive Error.RefusesValue : Error → Prop
  | notText : RefusesValue .notText
  | strayPercent (value : String) (position : Nat) : RefusesValue (.strayPercentStored value position)

/-- A value that can be stored: a text in which every percent sign has a meaning. -/
def Storable (value? : Option String) : Prop :=
  ∃ value, value? = some value ∧ '%' ∉ withoutReferences (withoutPairs value.toList)

/-- A value is stored in a section that is there, or among the defaults, and changes the options of
    one table, or it is refused for what it is. -/
theorem documentSet_cases {d : Document} {sectionName : String}
    (h : d.hasSection sectionName ∨ sectionName = defaultsName) (option : String)
    (value? : Option String) :
    (¬ Storable value? ∧ ∃ e, e.RefusesValue ∧ d.set sectionName option value? = .error e) ∨
      (Storable value? ∧ ∃ d', d.set sectionName option value? = .ok d' ∧
        d'.sections.keys = d.sections.keys) := by
  cases value? with
  | none => exact .inl ⟨nofun, .notText, .notText, rfl⟩
  | some value =>
    -- a percent sign without meaning is looked for before the section is
    by_cases hstray : '%' ∈ withoutReferences (withoutPairs value.toList)
    · have hrefused : ¬ Storable (some value) := by
        rintro ⟨value', heq, hplain⟩
        exact hplain (Option.some.inj heq ▸ hstray)
      refine .inl ⟨hrefused, .strayPercentStored value
        ((withoutReferences (withoutPairs value.toList)).takeWhile (· ≠ '%')).length,
        .strayPercent .., ?_⟩
      simp only [Document.set, List.contains_iff_mem, hstray, if_true]
    · refine .inr ⟨⟨value, rfl, hstray⟩, ?_⟩
      by_cases hdefaults : sectionName = "" ∨ sectionName = defaultsName
      · exact ⟨{ d with defaults := d.defaults.put (Text.lower option) (.text value) },
          by simp only [Document.set, List.contains_iff_mem, hstray, hdefaults, if_true, if_false], rfl⟩
      · have hsection := h.resolve_right fun heq => hdefaults (.inr heq)
        refine ⟨{ d with sections :=
          d.sections.modify sectionName (·.put (Text.lower option) (.text value)) }, ?_, ?_⟩
        · simp only [Document.set, List.contains_iff_mem, hstray, hdefaults, hsection, if_true,
            if_false]
        · exact OrderedMap.keys_modify ..

/-- A value that is stored is put into the table of a section, or among the defaults if the section
    has no name or their name. -/
theorem documentSet_eq_ok {d d' : Document} {name option value : String}
    (h : d.set name option (some value) = .ok d') :
    ((name = "" ∨ name = defaultsName) ∧
        d' = { d with defaults := d.defaults.put (Text.lower option) (.text value) }) ∨
      (¬ (name = "" ∨ name = defaultsName) ∧
        d' = { d with sections :=
          d.sections.modify name (·.put (Text.lower option) (.text value)) }) := by
  unfold Document.set at h
  simp only at h
  -- no percent sign is left over, so the table is chosen by the name
  split at h
  · exact nomatch h
  · split at h
    · rename_i hdefaults
      exact .inl ⟨hdefaults, (Except.ok.inj h).symm⟩
    · rename_i hdefaults
      split at h
      · exact .inr ⟨hdefaults, (Except.ok.inj h).symm⟩
      · exact nomatch h

namespace Annotated

/-- The document with a section of a name, which is added if there is none. -/
def withSection (a : Annotated) (name : String) : Annotated :=
  if a.document.hasSection name then a else (a.addSection name).2

/-- Stores a value and its help in the section of a name. -/
def store (a : Annotated) (sectionName option : String) (value? help? : Option String) :
    Except Error Unit × Annotated :=
  match a.document.set sectionName option value? with
  | .error e => (.error e, a)
  | .ok d =>
    let a := { a with document := d }
    match help?, a.help.get? sectionName with
    | none, _ => (.ok (), a)
    | some _, none => (.error (.noHelpTable sectionName), a)
    | some help, some table =>
      (.ok (), { a with help := a.help.put sectionName (table.put option help) })

variable {a : Annotated} {name : String}

/-! ## Sections -/

/-- A section is there or is added. -/
theorem withSection_cases (a : Annotated) (name : String) :
    a.withSection name = a ∨ a.withSection name = (a.addSection name).2 := by
  unfold withSection
  split
  · exact .inl rfl
  · exact .inr rfl

/-- A section that is there is not added. -/
theorem withSection_of_hasSection (h : a.document.hasSection name) : a.withSection name = a :=
  if_pos h

/-- An added section is empty, and so is its help. -/
theorem addSection_eq_ok (h : a.document.hasSection name = false) (hname : name ≠ defaultsName) :
    a.addSection name = (.ok (),
      { document := { a.document with sections := a.document.sections.put name .empty }
        help := a.help.put name .empty }) := by
  simp only [addSection, Document.addSection, hname, h, Bool.false_eq_true, if_false]

/-- Where a section cannot be added, nothing is done. -/
theorem exists_addSection_error (h : a.document.hasSection name ∨ name = defaultsName) :
    ∃ e, a.addSection name = (.error e, a) := by
  by_cases hname : name = defaultsName
  · exact ⟨.reservedSection name, by simp only [addSection, Document.addSection, hname, if_true]⟩
  · refine ⟨.sectionExists name, ?_⟩
    simp only [addSection, Document.addSection, hname, h.resolve_right hname, if_true, if_false]

/-- A section that is missing is added, empty and with a table of help. -/
theorem withSection_of_not_hasSection (h : a.document.hasSection name = false)
    (hname : name ≠ defaultsName) :
    a.withSection name =
      { document := { a.document with sections := a.document.sections.put name .empty }
        help := a.help.put name .empty } := by
  rw [withSection, if_neg (by simp [h]), addSection_eq_ok h hname]

/-- Then it is there, unless its name is the reserved one. -/
theorem hasSection_withSection (h : a.document.hasSection name ∨ name ≠ defaultsName) :
    (a.withSection name).document.hasSection name := by
  by_cases hthere : a.document.hasSection name
  · rwa [withSection_of_hasSection hthere]
  · rw [withSection_of_not_hasSection (Bool.eq_false_iff.2 hthere) (h.resolve_left hthere)]
    simp [Document.hasSection, OrderedMap.contains, OrderedMap.get?_put]

/-! ## The steps -/

/-- No section of the reserved name is added, and nothing else is done. -/
theorem set_reserved (h : a.document.hasSection defaultsName = false) (option : String)
    (value? help? : Option String) :
    a.set defaultsName option value? help? = (.error (.reservedSection defaultsName), a) := by
  simp only [set, h, addSection, Document.addSection, Bool.false_eq_true, if_false, if_true]

/-- In all other cases the section is there when the value is looked at. -/
theorem set_eq_store (h : a.document.hasSection name ∨ name ≠ defaultsName) (option : String)
    (value? help? : Option String) :
    a.set name option value? help? = (a.withSection name).store name option value? help? := by
  by_cases hthere : a.document.hasSection name
  · simp only [set, withSection, hthere, if_true]
    rfl
  · have hadd := addSection_eq_ok (Bool.eq_false_iff.2 hthere) (h.resolve_left hthere)
    simp only [set, withSection, hthere, hadd]
    rfl

/-- A value is refused for what it is and changes nothing, or it is stored; then no section comes
    or goes, no table of help comes or goes, and all that can be refused is help without a place
    for it. -/
theorem store_cases (h : a.document.hasSection name) (option : String)
    (value? help? : Option String) :
    (¬ Storable value? ∧ ∃ e, e.RefusesValue ∧ a.store name option value? help? = (.error e, a)) ∨
      (Storable value? ∧ ∃ r b, a.store name option value? help? = (r, b) ∧
        b.document.sections.keys = a.document.sections.keys ∧ b.help.keys = a.help.keys ∧
        ∀ e, r = .error e → e = .noHelpTable name) := by
  rcases documentSet_cases (.inl h) option value? with ⟨hrefused, e, he, hset⟩ | ⟨hstorable, d, hset, hkeys⟩
  · exact .inl ⟨hrefused, e, he, by simp only [store, hset]⟩
  · -- the value is stored; what is left is the help
    refine .inr ⟨hstorable, ?_⟩
    -- without help nothing more can be refused
    cases help? with
    | none =>
      exact ⟨.ok (), { a with document := d }, by simp only [store, hset], hkeys, rfl, nofun⟩
    | some help =>
      -- with it, a section without a table of help is refused
      cases htable : a.help.get? name with
      | none =>
        exact ⟨.error (.noHelpTable name), { a with document := d },
          by simp only [store, hset, htable], hkeys, rfl, fun e he => (Except.error.inj he).symm⟩
      | some table =>
        have hmem : name ∈ a.help.keys :=
          List.mem_map_of_mem (OrderedMap.mem_entries_of_get? htable)
        refine ⟨.ok (), { document := d, help := a.help.put name (table.put option help) },
          by simp only [store, hset, htable], hkeys, ?_, nofun⟩
        rw [OrderedMap.keys_put, if_pos hmem]

/-- What comes of storing a value.  Whatever is refused after the section was added leaves the
    section there. -/
theorem set_cases (a : Annotated) (name option : String) (value? help? : Option String) :
    (a.document.hasSection name = false ∧ name = defaultsName ∧
        a.set name option value? help? = (.error (.reservedSection name), a)) ∨
      ((a.document.hasSection name ∨ name ≠ defaultsName) ∧
        ((¬ Storable value? ∧ ∃ e, e.RefusesValue ∧
            a.set name option value? help? = (.error e, a.withSection name)) ∨
          (Storable value? ∧ ∃ r b, a.set name option value? help? = (r, b) ∧
            b.document.sections.keys = (a.withSection name).document.sections.keys ∧
            b.help.keys = (a.withSection name).help.keys ∧
            ∀ e, r = .error e → e = .noHelpTable name))) := by
  by_cases hthere : a.document.hasSection name ∨ name ≠ defaultsName
  · refine .inr ⟨hthere, ?_⟩
    rw [set_eq_store hthere]
    exact store_cases (hasSection_withSection hthere) option value? help?
  · obtain ⟨hmissing, hname⟩ := not_or.1 hthere
    obtain rfl := Decidable.not_not.1 hname
    have hmissing := Bool.eq_false_iff.2 hmissing
    exact .inl ⟨hmissing, rfl, set_reserved hmissing option value? help?⟩

/-- What is told by the names of sections and of tables of help, and is kept where a section is added,
    is kept where a value is stored. -/
theorem set_keeps {I : Annotated → Prop} (hadd : ∀ a name, I a → I (a.addSection name).2)
    (hkeys : ∀ a b : Annotated, b.document.sections.keys = a.document.sections.keys →
      b.help.keys = a.help.keys → I a → I b)
    (h : I a) (name option : String) (value? help? : Option String) :
    I (a.set name option value? help?).2 := by
  -- the section is there or is added
  have hsection : I (a.withSection name) := by
    rcases a.withSection_cases name with heq | heq <;> rw [heq]
    · exact h
    · exact hadd a name h
  rcases a.set_cases name option value? help? with
    ⟨-, -, hset⟩ | ⟨-, ⟨-, e, -, hset⟩ | ⟨-, r, b, hset, hsections, hhelp, -⟩⟩
  · rwa [hset]
  · rwa [hset]
  · rw [hset]
    exact hkeys _ b hsections hhelp hsection

end Annotated

end JavaFragments.Ini
