import JavaFragments.Proofs.Options.WrittenFile

/-! # Options in a file and options given as overrides

Values of options make the same configuration whether they are written into a file that is
read, or given as overrides.  Both ways the options are those of the assignment with the
defaults for all others, and only a contradiction between them is refused:

* `prioritized_overrides`, `prioritized_file`   the options by priority, both ways
* `refuses_check`                               a refusal can always be worded
* `configure_written`                           both ways make the same -/

namespace JavaFragments.Options

open Ini Number

/-! ## The options of an assignment -/

/-- The overrides that give each option its value. -/
def Assignment.overrides (as : Assignment) : List (String × Value) :=
  as.map fun e => (e.1.key, e.1.type.toValue e.2)

/-- The options with the given values, and the defaults for all others. -/
def Assignment.options (as : Assignment) : Options :=
  as.foldl (fun o e => o.update e.1 e.2) defaults

/-- An option that is not among those that are given keeps its value. -/
private theorem get_foldl_update_of_not_mem {as : Assignment} {n : OptionName} (h : n ∉ as.names)
    (o : Options) : (as.foldl (fun o e => o.update e.1 e.2) o).get n = o.get n := by
  induction as generalizing o with
  | nil => rfl
  | cons e as ih =>
    rw [Assignment.names, List.map_cons, List.mem_cons, not_or] at h
    rw [List.foldl_cons, ih h.2, get_update_ne o (Ne.symm h.1)]

/-- An option that is given once has the value that it is given. -/
private theorem get_foldl_update_of_mem {as : Assignment} (hnames : as.names.Nodup) {n : OptionName}
    {v : n.type.Carrier} (h : ⟨n, v⟩ ∈ as) (o : Options) :
    (as.foldl (fun o e => o.update e.1 e.2) o).get n = v := by
  -- on the values from the first one on, whatever the options are before it
  induction as generalizing o with
  | nil => cases h
  | cons e as ih =>
    obtain ⟨hnot, hnames⟩ := List.nodup_cons.1 hnames
    rw [List.foldl_cons]
    rcases List.mem_cons.1 h with rfl | h
    · -- no later value is one of the same option
      rw [get_foldl_update_of_not_mem hnot, get_update_self]
    · exact ih hnames h _

/-- An option is named if it is given a value. -/
private theorem mem_names {as : Assignment} {n : OptionName} : n ∈ as.names ↔ ∃ v, ⟨n, v⟩ ∈ as := by
  rw [Assignment.names, List.mem_map]
  constructor
  · rintro ⟨⟨m, v⟩, hmem, rfl⟩
    exact ⟨v, hmem⟩
  · rintro ⟨v, hmem⟩
    exact ⟨⟨n, v⟩, hmem, rfl⟩

/-- The conversion of a value that is of the type already. -/
private theorem convert_toValue (t : OptionType) (v : t.Carrier) :
    t.convert (t.toValue v) = .ok v := by
  cases t with
  -- there may be no seed
  | seed => cases v <;> rfl
  | float => rfl
  | bool => rfl
  | int => rfl
  | str => rfl

/-- A value of an option is accepted as an override of the option. -/
private theorem convertOverride_toValue (n : OptionName) (v : n.type.Carrier) :
    convertOverride n.key (n.type.toValue v) = .ok (n.type.toValue v) := by
  refine convertOverride_eq_ok_iff.2 ⟨n, rfl, v, ?_, rfl⟩
  rw [convert, convert_toValue]

/-! ## Priority, both ways -/

section Priority

variable {as : Assignment}

/-- Overrides are kept in the order in which they are given. -/
private theorem entries_overrides (hnames : as.names.Nodup) :
    (OrderedMap.ofList as.overrides).entries = as.overrides := by
  apply OrderedMap.entries_ofList
  rw [Assignment.overrides, List.map_map]
  exact nodup_keys hnames

/-- Overrides that are values of their options are all accepted. -/
private theorem accepted_overrides (hnames : as.names.Nodup) : Accepted (.ofList as.overrides) := by
  intro e he
  rw [entries_overrides hnames] at he
  obtain ⟨given, -, rfl⟩ := List.mem_map.1 he
  exact ⟨_, convertOverride_toValue given.1 given.2⟩

/-- Given as overrides, the values come before the defaults. -/
theorem prioritized_overrides (hnames : as.names.Nodup) :
    Prioritized .empty (.ofList as.overrides) as.options := by
  have hnot : ∀ n, ¬ Found .empty n := by
    rintro n ⟨t, ht, -⟩
    cases ht
  constructor
  -- every value is found under its key, and no other option has this key
  case overridden =>
    intro n x hx
    rw [OrderedMap.get?_eq_some_iff, entries_overrides hnames] at hx
    obtain ⟨⟨m, v⟩, hmem, heq⟩ := List.mem_map.1 hx
    obtain ⟨hkey, rfl⟩ := Prod.mk.inj heq
    obtain rfl := OptionName.key_injective hkey
    rw [convertOverride_toValue, Options.value, Assignment.options,
      get_foldl_update_of_mem hnames hmem]
  case found => exact fun n _ hfound => absurd hfound (hnot n)
  -- an option without an override is none of those that are given
  case absent =>
    intro n hn _
    apply get_foldl_update_of_not_mem
    intro hmem
    obtain ⟨v, hv⟩ := mem_names.1 hmem
    rw [OrderedMap.get?_eq_none_iff, OrderedMap.mem_keys_ofList, Assignment.overrides,
      List.map_map] at hn
    exact hn (List.mem_map.2 ⟨⟨n, v⟩, hv, rfl⟩)

variable (hnames : as.names.Nodup) (h : ∀ e ∈ as, Writable e.1.type e.2)

include hnames h

/-- What is found in the file is read. -/
private theorem readable_file : Readable as.document.document := by
  intro n hfound
  obtain ⟨v, hv⟩ := mem_names.1 (found_document_iff.1 hfound)
  exact ⟨v, reads_document hnames h hv⟩

/-- Found in the file, the values come before the defaults. -/
theorem prioritized_file : Prioritized as.document.document (.ofList []) as.options := by
  constructor
  case overridden => exact fun n v hv => by cases hv
  -- nothing is overridden, so what counts is what is found
  case found =>
    intro n _ hfound
    obtain ⟨v, hv⟩ := mem_names.1 (found_document_iff.1 hfound)
    rw [Assignment.options, get_foldl_update_of_mem hnames hv]
    exact reads_document hnames h hv
  case absent =>
    intro n _ hnot
    exact get_foldl_update_of_not_mem (fun hmem => hnot (found_document_iff.2 hmem)) _

end Priority

/-! ## Refusals -/

/-- Something is accepted, or it is refused with a wording of its own. -/
def Refuses (x : Except Failure Unit) : Prop := x = .ok () ∨ ∃ r, x = .error (.rejected r)

/-- The second check is made only if the first one accepts. -/
theorem Refuses.andThen {x y : Except Failure Unit} (hx : Refuses x) (hy : Refuses y) :
    Refuses (do x; y) := by
  rcases hx with rfl | ⟨r, rfl⟩
  · exact hy
  · exact .inr ⟨r, rfl⟩

/-- All integers among the options are short enough to be written. -/
def FitAll (o : Options) : Prop := ∀ n m, o.value n = .int m → Fits m

/-- An integer that can be written is shown so in a refusal. -/
private theorem shown_of_fits {n : Int} (h : Fits n) :
    Settings.shown (.int n) = .ok (toString n) := by
  show (writeInt n).mapError _ = _
  rw [writeInt_of_fits h]
  rfl

/-- The refusal of a weight has no number in it. -/
private theorem refuses_checkWeight (x : Binary64) : Refuses (Settings.checkWeight (.float x)) := by
  rw [Settings.checkWeight_float]
  split
  · exact .inl rfl
  · exact .inr ⟨_, rfl⟩

/-- The refusal of two bounds shows both of them. -/
private theorem refuses_checkBounds {s : Settings} {low high : OptionName} {a b : Int}
    (ha : s.get low = .int a) (hb : s.get high = .int b) (hfa : Fits a) (hfb : Fits b) :
    Refuses (s.checkBounds low high) := by
  simp only [Settings.checkBounds, ha, hb, Settings.holds_int, shown_of_fits hfa,
    shown_of_fits hfb, bind, Except.bind]
  split
  · exact .inr ⟨_, rfl⟩
  · exact .inl rfl

/-- The refusal of two lengths shows both of them. -/
private theorem refuses_checkLengths {a b : Int} (hfa : Fits a) (hfb : Fits b) :
    Refuses (Settings.checkLengths (.int a) (.int b)) := by
  -- the two lengths are compared with one and with each other
  by_cases h : 1 ≤ a ∧ a ≤ b
  · exact .inl ((Settings.checkLengths_eq_ok_iff a b).2 h)
  · refine .inr ⟨.lengths (toString a) (toString b), ?_⟩
    simp only [Settings.checkLengths, Settings.holds_int, Comparison.accepts_atMost_compare,
      shown_of_fits hfa, shown_of_fits hfb, bind, Except.bind]
    -- the upper length is looked at only if the lower one is positive
    by_cases ha : 1 ≤ a
    · have hb : ¬ a ≤ b := fun hb => h ⟨ha, hb⟩
      simp [ha, hb]
    · simp [ha]

/-- The refusal of what is not positive does not show it. -/
private theorem refuses_checkPositive {s : Settings} {n : OptionName} {a : Int}
    (ha : s.get n = .int a) :
    Refuses (s.checkPositive n) := by
  simp only [Settings.checkPositive, ha, Settings.holds_int, bind, Except.bind]
  split
  · exact .inr ⟨_, rfl⟩
  · exact .inl rfl

/-- Options are accepted or refused with a wording, as long as their integers can be written. -/
theorem refuses_check {o : Options} (h : FitAll o) : Refuses o.check := by
  have hweight := refuses_checkWeight o.tryCatchWeight
  have hints : Refuses ((Settings.ofOptions o).checkBounds .intMin .intMax) :=
    refuses_checkBounds rfl rfl (h .intMin _ rfl) (h .intMax _ rfl)
  have hlongs : Refuses ((Settings.ofOptions o).checkBounds .longMin .longMax) :=
    refuses_checkBounds rfl rfl (h .longMin _ rfl) (h .longMax _ rfl)
  have hlengths := refuses_checkLengths (h .stringMinLength _ rfl) (h .stringMaxLength _ rfl)
  have hscale : Refuses ((Settings.ofOptions o).checkPositive .floatScale) :=
    refuses_checkPositive rfl
  have hsuffix : Refuses ((Settings.ofOptions o).checkPositive .varSuffixMax) :=
    refuses_checkPositive rfl
  -- each check is made only if those before it accept
  exact hweight.andThen (hints.andThen (hlongs.andThen (hlengths.andThen (hscale.andThen hsuffix))))

/-- An integer among the values that are given can be written. -/
theorem fits_of_writable {t : OptionType} {v : t.Carrier} (h : Writable t v) {m : Int}
    (hm : t.toValue v = .int m) : Fits m := by
  -- only seeds and integers are integers as values
  cases t with
  | seed =>
    cases v with
    | none => cases hm
    | some n => exact Value.int.inj hm ▸ h n rfl
  | float => exact h.elim
  | bool => cases hm
  | int => exact Value.int.inj hm ▸ h
  | str => cases hm

/-- An integer of nine digits can be written. -/
theorem fits_of_short {n : Int} (h : n.natAbs < 10 ^ 9) : Fits n :=
  Nat.lt_of_lt_of_le h (Nat.pow_le_pow_right (by decide) (by decide))

/-- The defaults have no more than nine digits. -/
private theorem fitAll_defaults : FitAll defaults := by
  intro n m hm
  -- the options that are integers, and all others
  cases n <;> first | exact Value.int.inj hm ▸ fits_of_short (by decide) | cases hm

/-- The integers among the options of an assignment can be written, as the defaults can. -/
private theorem fitAll_options {as : Assignment} (hnames : as.names.Nodup)
    (h : ∀ e ∈ as, Writable e.1.type e.2) : FitAll as.options := by
  intro n m hm
  -- an integer is one that was given, or a default
  by_cases hn : n ∈ as.names
  · obtain ⟨v, hv⟩ := mem_names.1 hn
    rw [Options.value, Assignment.options, get_foldl_update_of_mem hnames hv] at hm
    exact fits_of_writable (h _ hv) hm
  · rw [Options.value, Assignment.options, get_foldl_update_of_not_mem hn] at hm
    exact fitAll_defaults n m hm

/-! ## Both ways -/

/-- The configuration of sources that give options, unless these are refused. -/
theorem configure_of_ofSources {env : Environment} {tree : FileTree} {request : Request}
    {path? : Option String} {d : Document} {o : Options}
    (hnames : checkNames request.overrides = .ok ()) (hpath : request.path? env = .ok path?)
    (hd : documentOf tree path? = .ok d)
    (ho : ofSources d request.overrides = (do o.check; .ok o)) :
    (o.check = .ok () → (configure env tree request).map (·.settings) = .ok (.ofOptions o)) ∧
      ∀ f, o.check = .error f → configure env tree request = .error f := by
  rw [configure_eq]
  simp only [hnames, hpath, hd, ho, bind, Except.bind]
  -- the options are known, so all that is left is their check
  constructor
  · intro hcheck
    rw [hcheck]
    rfl
  · intro f hcheck
    rw [hcheck]

/-- Values of options, integers that can be written, truth values and texts that stand on one
    line, make the same configuration in a file that is read as they make when they are given
    as overrides, whatever else is in the texts: the same options, or the same refusal. -/
theorem configure_written {as : Assignment} (hnames : as.names.Nodup)
    (h : ∀ e ∈ as, Writable e.1.type e.2) :
    ∃ a, fileDocument as = .ok a ∧
      ∀ (env : Environment) (tree : FileTree) (name? directory? : Option String) (path : String),
        filePath env (.ofText? name?) (.ofText? directory?) = .ok path →
        tree.read? (Path.ofText path) = some (.text a.write) →
        let fromFile := configure env tree { name?, directory?, read := true }
        let fromOverrides := configure env tree { overrides := as.overrides }
        (as.options.check = .ok () ∧
            fromFile.map (·.settings) = .ok (.ofOptions as.options) ∧
            fromOverrides.map (·.settings) = .ok (.ofOptions as.options)) ∨
          ∃ r, as.options.check = .error (.rejected r) ∧ fromFile = .error (.rejected r) ∧
            fromOverrides = .error (.rejected r) := by
  refine ⟨as.document, fileDocument_eq h, fun env tree name? directory? path hpath hfile => ?_⟩
  intro fromFile fromOverrides
  -- one request names the file, and the other one has no file at all
  have hread : Request.path? env { name?, directory?, read := true } = .ok (some path) := by
    simp only [Request.path?, if_true, hpath]
    rfl
  have hnotRead : Request.path? env { overrides := as.overrides } = .ok none := rfl
  have hempty : documentOf tree none = .ok .empty := rfl
  have hnoOverrides : Accepted (.ofList []) := by
    intro e he
    cases he
  have haccepted := accepted_overrides hnames
  -- what comes of the file
  obtain ⟨hfileOk, hfileError⟩ := configure_of_ofSources rfl hread
    (documentOf_write hnames h hfile)
    (ofSources_eq (readable_file hnames h) hnoOverrides (prioritized_file hnames h))
  -- what comes of the overrides
  obtain ⟨hoverridesOk, hoverridesError⟩ := configure_of_ofSources
    (checkNames_of_accepted haccepted) hnotRead hempty
    (ofSources_eq (readable_of_load (load_of_no_section rfl)) haccepted
      (prioritized_overrides hnames))
  -- both come down to the check of the same options
  rcases refuses_check (fitAll_options hnames h) with hok | ⟨r, hr⟩
  · exact .inl ⟨hok, hfileOk hok, hoverridesOk hok⟩
  · exact .inr ⟨r, hr, hfileError _ hr, hoverridesError _ hr⟩

/-- A negative seed, a truth value, a bound and a text that could be taken for other things
    elsewhere. -/
def mixedAssignment : Assignment :=
  [⟨.seed, some (-7 : Int)⟩, ⟨.randomVoid, true⟩, ⟨.intMax, (5 : Int)⟩,
    ⟨.throwMessage, "100% = [#;: %(x)s]"⟩]

/-- A working directory with an options file. -/
def workingDirectory (text : String) : FileTree :=
  ⟨.directory [(defaultFileName, .file (.text text))]⟩

/-- The file is found under its name. -/
private theorem read_workingDirectory (text : String) :
    (workingDirectory text).read? (Path.ofText defaultFileName) = some (.text text) := by
  have hpath : Path.ofText defaultFileName = ⟨0, [defaultFileName]⟩ := by decide
  have hnull : FileTree.isNullFree [defaultFileName] = true := by
    simp [FileTree.isNullFree, String.contains_char_eq, defaultFileName]
  have hlong : ¬ maxPathBytes < (⟨0, [defaultFileName]⟩ : Path).text.utf8ByteSize := by
    decide +kernel
  simp only [hpath, FileTree.read?, FileTree.locate, hnull, hlong]
  rfl

/-- The mixed assignment is accepted from a file and from overrides. -/
theorem configure_written_mixed :
    ∃ a, fileDocument mixedAssignment = .ok a ∧
      ∀ request ∈ [{ directory? := some "", read := true },
          { overrides := mixedAssignment.overrides }],
        (configure {} (workingDirectory a.write) request).map (·.settings) =
          .ok (.ofOptions mixedAssignment.options) := by
  -- a short seed and a short bound, a truth value, and a text on one line
  have hwritable : ∀ e ∈ mixedAssignment, Writable e.1.type e.2 := by
    intro e he
    simp only [mixedAssignment, List.mem_cons, List.not_mem_nil, or_false] at he
    rcases he with rfl | rfl | rfl | rfl
    · exact fun n hn => Option.some.inj hn ▸ fits_of_short (by decide)
    · trivial
    · exact fits_of_short (by decide)
    · exact ⟨by decide, by decide, by decide⟩
  have hweight : Binary64.zero.le defaults.tryCatchWeight ∧ defaults.tryCatchWeight.le .one := by
    decide +kernel
  have hconsistent : Consistent mixedAssignment.options :=
    ⟨hweight, by decide, by decide, by decide, by decide, by decide⟩
  obtain ⟨a, ha, hboth⟩ := configure_written (by decide) hwritable
  refine ⟨a, ha, ?_⟩
  -- the options are consistent, so they are not refused
  rcases hboth {} (workingDirectory a.write) none (some "") defaultFileName rfl
    (read_workingDirectory a.write) with ⟨-, hfile, hoverrides⟩ | ⟨r, hr, -⟩
  · exact List.forall_mem_cons.2 ⟨hfile, List.forall_mem_singleton.2 hoverrides⟩
  · rw [check_eq_ok_iff_consistent.2 hconsistent] at hr
    cases hr

end JavaFragments.Options
