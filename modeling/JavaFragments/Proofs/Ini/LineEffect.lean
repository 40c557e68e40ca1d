import JavaFragments.Ini.Reader

/-! # What lines do to a document

A line that is accepted changes the document in one of few ways, which can be told from the
line: `Effect` lists them.  So what is true of a document before a source is read, and stays
true whatever its lines do, is true of the document that is read:

* `effect_of_step`   what one line does, if nothing was refused
* `effects_of_run`   what is true after all lines
* `exists_of_readText`   and when the lines of all values are put together
* `Document.Every`, `every_of_effect`   properties of all names and all options -/

namespace JavaFragments.Ini

open Text

/-- The documents that a line may lead to where nothing is refused. -/
inductive Progress.Effect (p : Progress) (line : List Char) : Document → Prop
  /-- The document stays as it is. -/
  | none : Effect p line p.document
  /-- A blank line goes on with a value. -/
  | blank (sectionName option : String) :
      Effect p line (p.document.modifyTable sectionName (·.modify option (RawValue.extend "")))
  /-- An indented line goes on with a value. -/
  | more (sectionName option : String) {indent : Nat} {content : List Char} :
      Line.ofChars line = .text indent content → p.indent < indent →
        Effect p line (p.document.modifyTable sectionName
          (·.modify option (RawValue.extend (String.ofList content))))
  /-- A header adds a section. -/
  | header {indent : Nat} {content name : List Char} :
      Line.ofChars line = .text indent content → Content.ofChars content = .header name →
        String.ofList name ≠ defaultsName →
          Effect p line { p.document with
            sections := p.document.sections.put (String.ofList name) .empty }
  /-- An option with its value. -/
  | entry (sectionName : String) {indent : Nat} {content name value : List Char} :
      Line.ofChars line = .text indent content → Content.ofChars content = .entry name value →
        name ≠ [] →
          Effect p line (p.document.modifyTable sectionName
            (·.put (lower (String.ofList name)) (.lines [String.ofList value])))

section

variable {p q : Progress} {source : String} {number : Nat} {line : List Char}

/-- A header adds a section, unless it is there or is that of the defaults. -/
private theorem effect_of_enter {indent : Nat} {content name : List Char}
    (hline : Line.ofChars line = .text indent content)
    (hcontent : Content.ofChars content = .header name)
    (h : ({ p with indent := indent } : Progress).enter source number (String.ofList name) = .ok q) :
    p.Effect line q.document ∧ q.malformed = p.malformed := by
  unfold Progress.enter at h
  split at h
  · obtain rfl := Except.ok.inj h
    exact ⟨.none, rfl⟩
  · rename_i hname
    split at h
    · exact nomatch h
    · obtain rfl := Except.ok.inj h
      refine ⟨?_, rfl⟩
      -- a section may be there from an earlier source
      by_cases hthere : p.document.sections.contains (String.ofList name)
      · simp only [hthere, if_true]
        exact .none
      · simp only [hthere]
        exact .header hline hcontent hname

/-- A line that goes on with a value extends it, if there is one. -/
private theorem effect_of_extend (content : List Char)
    (h : ∀ sectionName option, p.Effect line (p.document.modifyTable sectionName
      (·.modify option (RawValue.extend (String.ofList content))))) :
    p.Effect line (p.extend content).document ∧ (p.extend content).malformed = p.malformed := by
  unfold Progress.extend
  split
  · exact ⟨h _ _, rfl⟩
  · exact ⟨.none, rfl⟩

/-- A line that starts a value puts it into its table, as one line. -/
private theorem start_eq_ok {sectionName option : String} {value : List Char}
    (h : p.start source number sectionName option value = .ok q) :
    q.document = p.document.modifyTable sectionName
        (·.put option (.lines [String.ofList value])) ∧ q.malformed = p.malformed := by
  unfold Progress.start at h
  split at h
  · exact nomatch h
  · obtain rfl := Except.ok.inj h
    exact ⟨rfl, rfl⟩

/-- What one line does.  What it refuses is kept to be refused at the end. -/
theorem effect_of_step (h : p.step source number line = .ok q) (hq : q.malformed = []) :
    p.Effect line q.document ∧ p.malformed = [] := by
  simp only [Progress.step] at h
  -- by what the line is: a comment, blank, or a text with its indentation
  cases hline : Line.ofChars line with
  | comment =>
    rw [hline] at h
    obtain rfl := Except.ok.inj h
    exact ⟨.none, hq⟩
  | blank =>
    rw [hline] at h
    obtain rfl := Except.ok.inj h
    have hblank : ∀ sectionName option, p.Effect line (p.document.modifyTable sectionName
        (·.modify option (RawValue.extend (String.ofList [])))) := .blank
    obtain ⟨heffect, hmalformed⟩ := effect_of_extend [] hblank
    exact ⟨heffect, hmalformed ▸ hq⟩
  | text indent content =>
    simp only [hline] at h
    split at h
    · rename_i hindent
      obtain rfl := Except.ok.inj h
      have hmore : ∀ sectionName option, p.Effect line (p.document.modifyTable sectionName
          (·.modify option (RawValue.extend (String.ofList content)))) :=
        fun sectionName option => .more sectionName option hline hindent.2
      obtain ⟨heffect, hmalformed⟩ := effect_of_extend content hmore
      exact ⟨heffect, hmalformed ▸ hq⟩
    · -- a text that goes on with no value is a header, an option, or refused
      cases hcontent : Content.ofChars content with
      | header name =>
        simp only [hcontent] at h
        obtain ⟨heffect, hmalformed⟩ := effect_of_enter hline hcontent h
        exact ⟨heffect, hmalformed ▸ hq⟩
      | entry name value =>
        simp only [hcontent] at h
        split at h
        · exact nomatch h
        · rename_i sectionName hcurrent
          by_cases hname : name = []
          · -- an option without a name is refused
            rw [if_pos hname] at h
            have hmalformed := (start_eq_ok h).2
            rw [hmalformed] at hq
            exact absurd hq (by simp [Progress.reject])
          · rw [if_neg hname] at h
            obtain ⟨hdocument, hmalformed⟩ := start_eq_ok h
            rw [hdocument]
            exact ⟨.entry sectionName hline hcontent hname, hmalformed ▸ hq⟩
      | other =>
        simp only [hcontent] at h
        split at h
        · exact nomatch h
        · obtain rfl := Except.ok.inj h
          exact absurd hq (by simp [Progress.reject])

/-- What is true of the document after all lines, if it stays true whatever a line does. -/
theorem effects_of_run {I : Document → Prop} {lines : List (List Char)}
    (hI : ∀ p : Progress, ∀ line ∈ lines, ∀ d, I p.document → p.Effect line d → I d)
    (h : Progress.run source number lines p = .ok q) (hq : q.malformed = []) :
    p.malformed = [] ∧ (I p.document → I q.document) := by
  -- on the lines; nothing was refused before, as nothing is forgotten
  induction lines generalizing number p with
  | nil =>
    obtain rfl := Except.ok.inj h
    exact ⟨hq, id⟩
  | cons line lines ih =>
    unfold Progress.run at h
    cases hstep : p.step source number line with
    | error e =>
      rw [hstep] at h
      exact nomatch h
    | ok r =>
      rw [hstep] at h
      obtain ⟨hr, hrest⟩ := ih (fun p l hl => hI p l (List.mem_cons_of_mem line hl)) h
      obtain ⟨heffect, hp⟩ := effect_of_step hstep hr
      exact ⟨hp, fun hd => hrest (hI p line List.mem_cons_self _ hd heffect)⟩

end

/-- What is true of a text that is read without a failure, before the lines of its values are put
    together. -/
theorem exists_of_readText {I : Document → Prop} {text : String} {d d' : Document}
    (hI : ∀ p : Progress, ∀ line ∈ splitLines text.toList, ∀ d, I p.document →
      p.Effect line d → I d)
    (hd : I d) (h : d.readText text = (.ok (), d')) : ∃ e : Document, I e ∧ e.settle = d' := by
  unfold Document.readText Document.readLines at h
  cases hrun : Progress.run Document.textSource 1 (splitLines text.toList) { document := d } with
  | error e =>
    rw [hrun] at h
    exact nomatch congrArg Prod.fst h
  | ok q =>
    rw [hrun] at h
    obtain ⟨hresult, hsettle⟩ := Prod.mk.inj h
    have hmalformed : q.malformed = [] := by
      cases hq : q.malformed with
      | nil => rfl
      | cons r rs => simp [hq] at hresult
    exact ⟨q.document, (effects_of_run hI hrun hmalformed).2 hd, hsettle⟩

/-! ## Names and options -/

/-- A property of the names of all sections, and one of all options with their values. -/
structure Document.Every (N : String → Prop) (P : String → RawValue → Prop) (d : Document) :
    Prop where
  names : ∀ s ∈ d.sections.entries, N s.1
  defaults : ∀ e ∈ d.defaults.entries, P e.1 e.2
  sections : ∀ s ∈ d.sections.entries, ∀ e ∈ s.2.entries, P e.1 e.2

section

variable {N : String → Prop} {P Q : String → RawValue → Prop} {d : Document}

instance [DecidablePred N] [∀ option v, Decidable (P option v)] : Decidable (d.Every N P) :=
  decidable_of_iff ((∀ s ∈ d.sections.entries, N s.1) ∧ (∀ e ∈ d.defaults.entries, P e.1 e.2) ∧
      ∀ s ∈ d.sections.entries, ∀ e ∈ s.2.entries, P e.1 e.2)
    ⟨fun h => ⟨h.1, h.2.1, h.2.2⟩, fun h => ⟨h.names, h.defaults, h.sections⟩⟩

/-- There is nothing to say of an empty document. -/
theorem Document.every_empty : Document.empty.Every N P := ⟨nofun, nofun, nofun⟩

/-- What is true of all may be told in a weaker way. -/
theorem Document.Every.mono {N' : String → Prop} (h : d.Every N P) (hN : ∀ name, N name → N' name)
    (hP : ∀ option v, P option v → Q option v) : d.Every N' Q where
  names s hs := hN _ (h.names s hs)
  defaults e he := hP _ _ (h.defaults e he)
  sections s hs e he := hP _ _ (h.sections s hs e he)

/-- What is true of the options of a table stays true of all where it stays true of the table. -/
theorem Document.Every.modifyTable (h : d.Every N P) (name : String) {f : Table → Table}
    (hf : ∀ t : Table, (∀ e ∈ t.entries, P e.1 e.2) → ∀ e ∈ (f t).entries, P e.1 e.2) :
    (d.modifyTable name f).Every N P := by
  unfold Document.modifyTable
  -- the table of the defaults, or that of a section
  split
  · exact ⟨h.names, hf _ h.defaults, h.sections⟩
  · refine ⟨fun s hs => ?_, h.defaults, fun s hs => ?_⟩
    · rcases OrderedMap.mem_entries_modify hs with ⟨t, ht, rfl⟩ | hs
      · exact h.names (name, t) ht
      · exact h.names s hs
    · rcases OrderedMap.mem_entries_modify hs with ⟨t, ht, rfl⟩ | hs
      · exact hf t (h.sections (name, t) ht)
      · exact h.sections s hs

/-- What is true of the options once the lines of their values are put together. -/
theorem Document.Every.settle (h : d.Every N fun option v => P option v.settle) :
    d.settle.Every N P where
  names s hs := by
    obtain ⟨t, ht, rfl⟩ := List.mem_map.1 hs
    exact h.names t ht
  defaults e he := by
    obtain ⟨stored, hstored, rfl⟩ := List.mem_map.1 he
    exact h.defaults stored hstored
  sections s hs e he := by
    obtain ⟨t, ht, rfl⟩ := List.mem_map.1 hs
    obtain ⟨stored, hstored, rfl⟩ := List.mem_map.1 he
    exact h.sections t ht stored hstored

/-- What a line leaves true, by what it can do. -/
theorem every_of_effect {p : Progress} {line : List Char} {d : Document}
    (hheader : ∀ indent content name, Line.ofChars line = .text indent content →
      Content.ofChars content = .header name → N (String.ofList name))
    (hblank : ∀ option v, P option v → P option (v.extend ""))
    (hmore : ∀ indent content, Line.ofChars line = .text indent content → p.indent < indent →
      ∀ option v, P option v → P option (v.extend (String.ofList content)))
    (hentry : ∀ indent content name value, Line.ofChars line = .text indent content →
      Content.ofChars content = .entry name value → name ≠ [] →
        P (lower (String.ofList name)) (.lines [String.ofList value]))
    (h : p.document.Every N P) (heffect : p.Effect line d) : d.Every N P := by
  -- a value that is gone on with is that of one option
  have hmodify : ∀ {text : String}, (∀ option v, P option v → P option (v.extend text)) →
      ∀ (option : String) (t : Table), (∀ e ∈ t.entries, P e.1 e.2) →
        ∀ e ∈ (t.modify option (RawValue.extend text)).entries, P e.1 e.2 := by
    intro text hextend option t ht e he
    rcases OrderedMap.mem_entries_modify he with ⟨v, hv, rfl⟩ | he
    · exact hextend _ _ (ht (option, v) hv)
    · exact ht e he
  -- by what a line can do; only a header adds a name, and only an option a value
  cases heffect with
  | none => exact h
  | blank sectionName option => exact h.modifyTable sectionName (hmodify hblank option)
  | more sectionName option hline hindent =>
    exact h.modifyTable sectionName (hmodify (hmore _ _ hline hindent) option)
  | header hline hcontent hname =>
    refine ⟨fun s hs => ?_, h.defaults, fun s hs => ?_⟩
    · rcases OrderedMap.mem_entries_put hs with rfl | hs
      · exact hheader _ _ _ hline hcontent
      · exact h.names s hs
    · rcases OrderedMap.mem_entries_put hs with rfl | hs
      · exact nofun
      · exact h.sections s hs
  | entry sectionName hline hcontent hname =>
    refine h.modifyTable sectionName fun t ht e he => ?_
    rcases OrderedMap.mem_entries_put he with rfl | he
    · exact hentry _ _ _ _ hline hcontent hname
    · exact ht e he

end

end JavaFragments.Ini
