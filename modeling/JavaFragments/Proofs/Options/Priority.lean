import JavaFragments.Options.Configuration
import JavaFragments.Proofs.Options.Loading

/-! # Priority of the sources of options

An option is the override of its name if there is one, else what is found for it in the
document, else its default.  Everything that is found must be readable, also where an
override takes its place, every override must do for an option, and the options that come
of it must be consistent:

* `ofSources_eq`            what comes of sources that can be read
* `ofSources_eq_ok_iff`     when sources give options, and which
* `configure_prioritized`   when a configuration is made, and with which options -/

namespace JavaFragments.Options

open Ini Number

/-! ## Sources together -/

/-- Whatever is found in a document can be read. -/
def Readable (d : Document) : Prop := ∀ n, Found d n → ∃ v, Reads d n v

/-- Every override is accepted for an option. -/
def Accepted (overrides : OrderedMap String Value) : Prop :=
  ∀ e ∈ overrides.entries, ∃ v, convertOverride e.1 e.2 = .ok v

/-- Options that are taken from overrides, else from a document, else from the defaults. -/
structure Prioritized (d : Document) (overrides : OrderedMap String Value) (o : Options) :
    Prop where
  overridden : ∀ (n : OptionName) v, overrides.get? n.key = some v →
    convertOverride n.key v = .ok (o.value n)
  found : ∀ n : OptionName, overrides.get? n.key = none → Found d n → Reads d n (o.get n)
  absent : ∀ n : OptionName, overrides.get? n.key = none → ¬ Found d n →
    o.get n = defaults.get n

/-- The weight is a probability, each range holds an integer, and lengths and sizes are
    positive. -/
structure Consistent (o : Options) : Prop where
  weight : Binary64.zero.le o.tryCatchWeight ∧ o.tryCatchWeight.le .one
  ints : o.intMin < o.intMax
  longs : o.longMin < o.longMax
  lengths : 1 ≤ o.stringMinLength ∧ o.stringMinLength ≤ o.stringMaxLength
  scale : 1 ≤ o.floatScale
  suffix : 1 ≤ o.varSuffixMax

/-- The check is passed by consistent options and by no others. -/
theorem check_eq_ok_iff_consistent {o : Options} : o.check = .ok () ↔ Consistent o := by
  rw [check_eq_ok_iff]
  constructor
  · rintro ⟨weight, ints, longs, lengths, scale, suffix⟩
    exact ⟨weight, ints, longs, lengths, scale, suffix⟩
  · rintro ⟨weight, ints, longs, lengths, scale, suffix⟩
    exact ⟨weight, ints, longs, lengths, scale, suffix⟩

/-- The defaults pass their own check. -/
theorem consistent_defaults : Consistent defaults :=
  ⟨by decide +kernel, by decide, by decide, by decide, by decide, by decide⟩

/-- A document in which everything can be read gives options. -/
private theorem exists_load {d : Document} (h : Readable d) : ∃ o, load d = .ok o := by
  -- each option by itself has a value to load
  have hvalue : ∀ n, ∃ v, Loaded d n (defaults.get n) v := by
    intro n
    by_cases hn : Found d n
    · obtain ⟨v, hv⟩ := h n hn
      exact ⟨v, fun _ => hv, fun hnot => absurd hn hnot⟩
    · exact ⟨defaults.get n, fun hfound => absurd hfound hn, fun _ => rfl⟩
  refine ⟨ofGet fun n => Classical.choose (hvalue n), load_eq_ok_iff.2 fun n => ?_⟩
  rw [get_ofGet]
  exact Classical.choose_spec (hvalue n)

/-- What was loaded could be read. -/
theorem readable_of_load {d : Document} {o : Options} (h : load d = .ok o) : Readable d :=
  fun n hn => ⟨o.get n, (load_eq_ok_iff.1 h n).1 hn⟩

/-- Overrides that are applied take priority over the options that they are applied to. -/
theorem prioritized_iff {d : Document} {overrides : OrderedMap String Value} {o₁ o : Options}
    (hload : load d = .ok o₁) :
    applyOverrides o₁ overrides.entries = .ok o ↔
      Accepted overrides ∧ Prioritized d overrides o := by
  have hloaded := load_eq_ok_iff.1 hload
  rw [applyOverrides_eq_ok_iff overrides.nodup]
  constructor
  · rintro ⟨hall, hothers⟩
    -- an option without an override keeps what was loaded for it
    have hkept : ∀ n : OptionName, overrides.get? n.key = none → o.get n = o₁.get n :=
      fun n hn => hothers n ((OrderedMap.get?_eq_none_iff _ _).1 hn)
    refine ⟨fun e he => ?_, ?_, fun n hn hfound => ?_, fun n hn hnot => ?_⟩
    · obtain ⟨n, hkey, hc⟩ := hall e he
      exact ⟨o.value n, hkey ▸ convertOverride_key_eq_ok_iff.2 hc⟩
    · intro n v hv
      obtain ⟨m, hkey, hc⟩ := hall _ (OrderedMap.mem_entries_of_get? hv)
      obtain rfl := OptionName.key_injective hkey
      exact convertOverride_key_eq_ok_iff.2 hc
    · rw [hkept n hn]
      exact (hloaded n).1 hfound
    · rw [hkept n hn]
      exact (hloaded n).2 hnot
  · -- what takes priority is what the overrides give, or what was loaded
    rintro ⟨haccepted, hprio⟩
    refine ⟨fun e he => ?_, fun n hn => ?_⟩
    · obtain ⟨v, hv⟩ := haccepted e he
      obtain ⟨n, hkey, -⟩ := convertOverride_eq_ok_iff.1 hv
      have hget : overrides.get? n.key = some e.2 :=
        OrderedMap.get?_eq_some_iff.2 (hkey ▸ he)
      exact ⟨n, hkey, convertOverride_key_eq_ok_iff.1 (hprio.overridden n e.2 hget)⟩
    · have hnone := (OrderedMap.get?_eq_none_iff overrides n.key).2 hn
      by_cases hfound : Found d n
      · exact (hprio.found n hnone hfound).unique ((hloaded n).1 hfound)
      · rw [hprio.absent n hnone hfound, (hloaded n).2 hfound]

/-- What comes of sources that can be read are the options by priority, if they are
    consistent. -/
theorem ofSources_eq {d : Document} {overrides : List (String × Value)} {o : Options}
    (hreadable : Readable d) (haccepted : Accepted (.ofList overrides))
    (hprio : Prioritized d (.ofList overrides) o) :
    ofSources d overrides = (do o.check; .ok o) := by
  obtain ⟨o₁, hload⟩ := exists_load hreadable
  have happly := (prioritized_iff hload).2 ⟨haccepted, hprio⟩
  simp only [ofSources, hload, happly, bind, Except.bind]

/-- Sources give options if they can be read, are accepted and give consistent options. -/
theorem ofSources_eq_ok_iff {d : Document} {overrides : List (String × Value)} {o : Options} :
    ofSources d overrides = .ok o ↔
      Readable d ∧ Accepted (.ofList overrides) ∧ Prioritized d (.ofList overrides) o ∧
        Consistent o := by
  constructor
  · intro h
    simp only [ofSources, bind_eq_ok_iff] at h
    obtain ⟨o₁, hload, o', happly, _, hcheck, ho⟩ := h
    obtain rfl := Except.ok.inj ho
    obtain ⟨haccepted, hprio⟩ := (prioritized_iff hload).1 happly
    exact ⟨readable_of_load hload, haccepted, hprio, check_eq_ok_iff_consistent.1 hcheck⟩
  · rintro ⟨hreadable, haccepted, hprio, hconsistent⟩
    rw [ofSources_eq hreadable haccepted hprio, check_eq_ok_iff_consistent.2 hconsistent]
    rfl

/-! ## Configurations -/

/-- The path of the options file, if it is to be read. -/
def Request.path? (env : Environment) (request : Request) : Except Failure (Option String) :=
  if request.read then
    some <$> filePath env (.ofText? request.name?) (.ofText? request.directory?)
  else .ok none

/-- The document of the options file, an empty one if it is not to be read. -/
def documentOf (tree : FileTree) : Option String → Except Failure Document
  | some path => documentAt tree path
  | none => .ok .empty

/-- A configuration from its parts. -/
theorem configure_eq (env : Environment) (tree : FileTree) (request : Request) :
    configure env tree request = (do
      checkNames request.overrides
      let path? ← request.path? env
      let document ← documentOf tree path?
      let options ← ofSources document request.overrides
      .ok { path := .ofText? path?
            name := .ofText? request.name?
            directory := .ofText? request.directory?
            document
            settings := .ofOptions options }) := by
  unfold configure Request.path? documentOf
  cases checkNames request.overrides with
  | error f => rfl
  | ok _ =>
    cases request.read with
    | false => rfl
    | true =>
      cases hpath : filePath env (.ofText? request.name?) (.ofText? request.directory?) with
      | error f => simp only [hpath, bind, Except.bind, Functor.map, Except.map, if_true]
      | ok path => simp only [hpath, bind, Except.bind, Functor.map, Except.map, if_true]

/-- Overrides that are accepted have no name of anything else. -/
theorem checkNames_of_accepted {overrides : List (String × Value)}
    (h : Accepted (.ofList overrides)) : checkNames overrides = .ok () := by
  -- an accepted override is named as an option
  have hkeys : ∀ key ∈ overrides.map Prod.fst, ∃ n : OptionName, key = n.key := by
    intro key hkey
    obtain ⟨e, he, rfl⟩ := List.mem_map.1 (OrderedMap.mem_keys_ofList.2 hkey)
    obtain ⟨v, hv⟩ := h e he
    obtain ⟨n, hn, -⟩ := convertOverride_eq_ok_iff.1 hv
    exact ⟨n, hn⟩
  -- no option is named as one of the arguments
  have hnone : (overrides.map Prod.fst).findSome?
      (fun key => arguments.find? fun a => a.key = key) = none := by
    rw [List.findSome?_eq_none_iff]
    intro key hkey
    obtain ⟨n, rfl⟩ := hkeys key hkey
    cases n <;> decide
  have hitself : (overrides.map Prod.fst).contains Argument.itself.key = false := by
    apply Bool.eq_false_iff.2
    intro hself
    obtain ⟨n, hn⟩ := hkeys _ (List.contains_iff_mem.1 hself)
    revert hn
    cases n <;> decide
  simp only [checkNames, hnone, hitself]
  rfl

/-- Without a section of the options there are the defaults, whatever else the document says. -/
theorem load_of_no_section {d : Document} (h : d.sections.get? optionSection = none) :
    load d = .ok defaults := by
  have hnot : ∀ n, ¬ Found d n := by
    rintro n ⟨t, ht, -⟩
    rw [h] at ht
    cases ht
  exact load_eq_ok_iff.2 fun n => ⟨fun hfound => absurd hfound (hnot n), fun _ => rfl⟩

/-- There is no document where nothing is, or where a directory is. -/
private theorem documentOf_of_no_file {tree : FileTree} {path : String}
    (h : tree.reaches (Path.ofText path) = false ∨
      ∃ w, tree.locate (Path.ofText path) = .ok w ∧ tree.isDirectory w) :
    documentOf tree (some path) = .ok .empty := by
  have hread : tree.read? (Path.ofText path) = none := by
    -- nothing is there, or a directory is
    rcases h with h | ⟨w, hw, hdirectory⟩
    · unfold FileTree.reaches at h
      unfold FileTree.read?
      cases hlocate : tree.locate (Path.ofText path) with
      | error _ => rfl
      | ok w =>
        rw [hlocate] at h
        have hhere : tree.here w = none := by simpa [FileTree.isPresent] using h
        simp only [hhere, Option.bind_none]
    · obtain ⟨n, hhere, hn⟩ := (Option.any_eq_true _ _).1 hdirectory
      simp only [FileTree.read?, hw, hhere, Option.bind_some]
      cases n with
      | directory entries => rfl
      | file content => cases hn
  simp only [documentOf, documentAt, hread]

/-- The settings of a configuration depend on the request by its overrides and by what is in
    the document. -/
theorem map_settings_configure {env : Environment} {tree : FileTree} {request : Request}
    {path? : Option String} {d : Document} (hpath : request.path? env = .ok path?)
    (hd : documentOf tree path? = .ok d) :
    (configure env tree request).map (·.settings) = (do
      checkNames request.overrides
      let o ← ofSources d request.overrides
      .ok (.ofOptions o)) := by
  rw [configure_eq, hpath]
  cases checkNames request.overrides with
  | error f => rfl
  | ok _ =>
    simp only [bind, Except.bind, hd]
    cases ofSources d request.overrides <;> rfl

/-- When a configuration is made, and which. -/
theorem configure_eq_ok_iff {env : Environment} {tree : FileTree} {request : Request}
    {c : Configuration} :
    configure env tree request = .ok c ↔
      ∃ path? d o, request.path? env = .ok path? ∧ documentOf tree path? = .ok d ∧
        Readable d ∧ Accepted (.ofList request.overrides) ∧
        Prioritized d (.ofList request.overrides) o ∧ Consistent o ∧
        c = { path := .ofText? path?
              name := .ofText? request.name?
              directory := .ofText? request.directory?
              document := d
              settings := .ofOptions o } := by
  constructor
  · -- one step after the other: names, path, document and options
    intro h
    simp only [configure_eq, bind_eq_ok_iff] at h
    obtain ⟨_, -, path?, hpath, d, hd, o, ho, hc⟩ := h
    obtain ⟨hreadable, haccepted, hprio, hconsistent⟩ := ofSources_eq_ok_iff.1 ho
    exact ⟨path?, d, o, hpath, hd, hreadable, haccepted, hprio, hconsistent,
      (Except.ok.inj hc).symm⟩
  · rintro ⟨path?, d, o, hpath, hd, hreadable, haccepted, hprio, hconsistent, rfl⟩
    have ho := ofSources_eq_ok_iff.2 ⟨hreadable, haccepted, hprio, hconsistent⟩
    simp only [configure_eq, bind_eq_ok_iff]
    exact ⟨(), checkNames_of_accepted haccepted, path?, hpath, d, hd, o, ho, rfl⟩

/-- A configuration is made if and only if all that is found in the file can be read, all
    overrides are accepted, and the options by priority are consistent; it has just these
    options.  There is nothing in the document of a file that is not to be read, that is
    missing or that is a directory.  Defaults of a document without the section change
    nothing, and a value that cannot be read is refused whatever is given for its option. -/
theorem configure_prioritized (env : Environment) (tree : FileTree) (request : Request) :
    (∀ c, configure env tree request = .ok c ↔
      ∃ path? d o, request.path? env = .ok path? ∧ documentOf tree path? = .ok d ∧
        Readable d ∧ Accepted (.ofList request.overrides) ∧
        Prioritized d (.ofList request.overrides) o ∧ Consistent o ∧
        c = { path := .ofText? path?
              name := .ofText? request.name?
              directory := .ofText? request.directory?
              document := d
              settings := .ofOptions o }) ∧
      (request.read = false →
        request.path? env = .ok none ∧ documentOf tree none = .ok .empty) ∧
      (∀ path, (tree.reaches (Path.ofText path) = false ∨
        ∃ w, tree.locate (Path.ofText path) = .ok w ∧ tree.isDirectory w) →
          documentOf tree (some path) = .ok .empty) ∧
      ∀ path? d, request.path? env = .ok path? → documentOf tree path? = .ok d →
        (d.sections.get? optionSection = none →
          (configure env tree request).map (·.settings) =
            (configure env tree { request with read := false }).map (·.settings)) ∧
        ∀ n, Found d n → (∀ v, ¬ Reads d n v) →
          ∀ overrides c, configure env tree { request with overrides } ≠ .ok c := by
  refine ⟨fun c => configure_eq_ok_iff, fun h => ?_, fun path h => documentOf_of_no_file h,
    fun path? d hpath hd => ⟨fun h => ?_, fun n hfound hnot overrides c h => ?_⟩⟩
  · simp [Request.path?, h, documentOf]
  · have hnone : Request.path? env { request with read := false } = .ok none := rfl
    rw [map_settings_configure hpath hd, map_settings_configure hnone rfl]
    simp only [ofSources, load_of_no_section h, load_of_no_section (d := .empty) rfl]
  · -- other overrides leave the path and the document as they are
    simp only [configure_eq, bind_eq_ok_iff] at h
    obtain ⟨_, -, path', hpath', d', hd', o, ho, -⟩ := h
    obtain rfl : path? = path' := Except.ok.inj (hpath.symm.trans hpath')
    obtain rfl := Except.ok.inj (hd.symm.trans hd')
    obtain ⟨v, hv⟩ := (ofSources_eq_ok_iff.1 ho).1 n hfound
    exact hnot v hv

end JavaFragments.Options
