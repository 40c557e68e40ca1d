import JavaFragments.Options.Sample
import JavaFragments.Proofs.Ini.DoubledPercent
import JavaFragments.Proofs.Ini.ReadBack
import JavaFragments.Proofs.Number.WrittenInteger
import JavaFragments.Proofs.Options.Priority

/-! # Options written into a file

Values of some of the options are set in a document, each with its help, and the document is
written and read back.  Integers of any size that can be written, truth values and texts on
one line come back as they were:

* `plain_optionText`      what is written for a value stands on one line as it is
* `fileDocument_eq`       the document of the values
* `documentOf_write`      what a file that it is written to holds
* `reads_document`        what is found in it for an option is the value of the option -/

namespace JavaFragments.Options

open Ini Number Text

/-- Values for some of the options. -/
abbrev Assignment := List ((n : OptionName) × n.type.Carrier)

/-- The names of the options that have a value. -/
def Assignment.names (as : Assignment) : List OptionName := as.map (·.1)

/-- A value that can be written into a file: an integer is not too long, and a text stands on
    one line without white space around it.  Floating-point numbers are left out. -/
def Writable : (t : OptionType) → t.Carrier → Prop
  | .seed, v => ∀ n, v = some n → Fits n
  | .float, _ => False
  | .bool, _ => True
  | .int, n => Fits n
  | .str, s => strip s.toList = s.toList ∧ '\n' ∉ s.toList ∧ '\r' ∉ s.toList

/-- The text of a value in a file.  A percent sign in a text stands for itself. -/
def fileText : (t : OptionType) → t.Carrier → String
  | .seed, v => optionText .seed v
  | .float, x => optionText .float x
  | .bool, b => optionText .bool b
  | .int, n => optionText .int n
  | .str, s => doublePercents s

/-- The document with a value for an option and what the option is for. -/
def writeOption (a : Annotated) (e : (n : OptionName) × n.type.Carrier) :
    Except Ini.Error Annotated :=
  match a.set optionSection e.1.key (some (fileText e.1.type e.2)) (some e.1.help) with
  | (.ok (), a) => .ok a
  | (.error e, _) => .error e

/-- The document of values for some of the options. -/
def fileDocument (as : Assignment) : Except Ini.Error Annotated := as.foldlM writeOption .empty

/-! ## The texts of values -/

/-- A text stands on one line as it is. -/
structure PlainText (s : List Char) : Prop where
  stripped : strip s = s
  oneLine : '\n' ∉ s
  noReturn : '\r' ∉ s

/-- With its percent signs doubled it still does. -/
theorem PlainText.doubled {s : List Char} (h : PlainText s) : PlainText (doubled s) where
  stripped := strip_doubled h.stripped
  oneLine := fun hmem => h.oneLine (mem_doubled.1 hmem)
  noReturn := fun hmem => h.noReturn (mem_doubled.1 hmem)

/-- A text without white space has none around it. -/
private theorem strip_of_not_blank {s : List Char} (h : ∀ c ∈ s, isBlank c = false) :
    strip s = s := by
  have hleft : ∀ t : List Char, (∀ c ∈ t, isBlank c = false) → stripLeft t = t := by
    intro t ht
    refine stripLeft_of_startsPlain fun c hc => ht c (List.mem_of_mem_head? hc)
  rw [strip, hleft s h, stripRight_eq_reverse, hleft _ fun c hc => h c (List.mem_reverse.1 hc),
    List.reverse_reverse]

/-- A sign or a digit is no white space and no percent sign. -/
private theorem not_blank_of_mem_toString {n : Int} {c : Char} (h : c ∈ (toString n).toList) :
    isBlank c = false ∧ c ≠ '%' := by
  rcases mem_toString_int h with rfl | hdigit
  · decide
  · have hrange := toNat_of_isDigit hdigit
    refine ⟨Bool.eq_false_iff.2 fun hblank => ?_, ne_of_isDigit hdigit (by decide)⟩
    obtain ⟨b, hb, hlow, hhigh⟩ := (CharRanges.contains_iff _ _).1 hblank
    -- the ranges of white space end before the digits or start behind them
    have hapart : ∀ b ∈ blanks.bounds, b.2 < 48 ∨ 57 < b.1 := by decide
    have := hapart b hb
    omega

/-- So does a written integer. -/
private theorem plain_toString (n : Int) : PlainText (toString n).toList where
  -- signs and digits are neither white space nor line ends
  stripped := strip_of_not_blank fun c hc => (not_blank_of_mem_toString hc).1
  oneLine := fun hmem => by cases (not_blank_of_mem_toString hmem).1
  noReturn := fun hmem => by cases (not_blank_of_mem_toString hmem).1

/-- What is written for a value stands on one line as it is. -/
theorem plain_optionText {t : OptionType} {v : t.Carrier} (h : Writable t v) :
    PlainText (optionText t v).toList := by
  cases t with
  | seed =>
    cases v with
    | none => exact ⟨by decide, by decide, by decide⟩
    | some n => exact plain_toString n
  | float => exact h.elim
  | bool => cases v <;> exact ⟨by decide, by decide, by decide⟩
  | int => exact plain_toString v
  -- a text is written as it is
  | str => exact ⟨h.1, h.2.1, h.2.2⟩

/-- Only texts have percent signs, so all that is written has them doubled. -/
private theorem fileText_eq {t : OptionType} {v : t.Carrier} (h : Writable t v) :
    fileText t v = doublePercents (optionText t v) := by
  -- a text without percent signs is its own doubled text
  have hkept : ∀ s : String, '%' ∉ s.toList → s = doublePercents s := by
    intro s hs
    rw [doublePercents, doubled_of_not_mem hs, String.ofList_toList]
  have hint : ∀ n : Int, '%' ∉ (toString n).toList :=
    fun n hmem => (not_blank_of_mem_toString hmem).2 rfl
  cases t with
  | seed =>
    cases v with
    | none => exact hkept _ (by decide)
    | some n => exact hkept _ (hint n)
  | float => exact h.elim
  | bool => cases v <;> exact hkept _ (by decide)
  | int => exact hkept _ (hint v)
  | str => rfl

/-- A written integer is never taken for no seed. -/
private theorem readSeed_toString {n : Int} (h : Fits n) :
    readSeed (toString n) = .ok (some n) := by
  -- two texts mean that there is no seed
  have hempty : toString n ≠ "" := by
    intro he
    have hlist := toList_toString_int n
    rw [he] at hlist
    exact Nat.toDigits_ne_nil (List.append_eq_nil_iff.1 hlist.symm).2
  have hnone : toString n ≠ "None" := by
    intro he
    have hmem : 'N' ∈ (toString n).toList := he ▸ by decide
    exact absurd (mem_toString_int hmem) (by decide)
  rw [readSeed, if_neg (not_or.2 ⟨hempty, hnone⟩), readInt_toString h]
  rfl

/-- What is written for a value is read as the value. -/
theorem readAs_optionText {t : OptionType} {v : t.Carrier} (h : Writable t v) :
    readAs t (optionText t v) = .ok v := by
  cases t with
  | seed =>
    -- a seed is read without the white space around it, and there is none
    have hstrip : stripString (optionText .seed v) = optionText .seed v := by
      rw [stripString, (plain_optionText h).stripped, String.ofList_toList]
    rw [readAs, hstrip]
    cases v with
    | none => rfl
    | some n => exact readSeed_toString (h n rfl)
  | float => exact h.elim
  | bool => cases v <;> rfl
  | int => exact readInt_toString h .ten
  | str =>
    rw [readAs, stripString, (plain_optionText h).stripped, String.ofList_toList]
    rfl

/-! ## The document of values -/

/-- The document with one section, that of the options. -/
def sectionOf (t : Table) (help : HelpTable) : Annotated where
  document := { sections := OrderedMap.empty.put optionSection t }
  help := OrderedMap.empty.put optionSection help

/-- What is stored for values. -/
def Assignment.table (as : Assignment) : Table :=
  .ofList (as.map fun e => (e.1.key, .text (fileText e.1.type e.2)))

/-- The help for options that have a value. -/
def Assignment.help (as : Assignment) : HelpTable := .ofList (as.map fun e => (e.1.key, e.1.help))

/-- The document of values, which has no section if there are none. -/
def Assignment.document (as : Assignment) : Annotated :=
  if as = [] then .empty else sectionOf as.table as.help

/-- The section is there. -/
theorem get?_sectionOf (t : Table) (help : HelpTable) :
    (sectionOf t help).document.sections.get? optionSection = some t := by
  simp [sectionOf, OrderedMap.get?_put]

/-- A text more for the section of the options, with its percent signs doubled. -/
theorem set_sectionOf (n : OptionName) (s : String) (t : Table) (help : HelpTable) :
    (sectionOf t help).set optionSection n.key (some (doublePercents s)) (some n.help) =
      (.ok (), sectionOf (t.put n.key (.text (doublePercents s))) (help.put n.key n.help)) := by
  have hsection := Document.hasSection_of_get? (get?_sectionOf t help)
  have hname : ¬ (optionSection = "" ∨ optionSection = defaultsName) := by decide
  -- the section is there, so the option is put into it
  have hset : (sectionOf t help).document.set optionSection n.key (some (doublePercents s)) =
      .ok (sectionOf (t.put n.key (.text (doublePercents s))) help).document := by
    rw [Document.set]
    simp only [doublePercents, String.toList_ofList, stored_doubled,
      Bool.false_eq_true, if_false, hname, hsection, if_true, lower_key]
    simp only [sectionOf, OrderedMap.modify_put]
  -- and so is the help for it
  have hhelp : (sectionOf t help).help.get? optionSection = some help := by
    simp [sectionOf, OrderedMap.get?_put]
  rw [Annotated.set]
  simp only [hsection, if_true, hset, hhelp]
  simp only [sectionOf, OrderedMap.put_put]

/-- A value more for the section of the options. -/
private theorem writeOption_sectionOf {n : OptionName} {v : n.type.Carrier} (h : Writable n.type v)
    (t : Table) (help : HelpTable) :
    writeOption (sectionOf t help) ⟨n, v⟩ =
      .ok (sectionOf (t.put n.key (.text (fileText n.type v))) (help.put n.key n.help)) := by
  rw [fileText_eq h, writeOption, fileText_eq h, set_sectionOf]

/-- The first value brings the section with it. -/
private theorem writeOption_empty (e : (n : OptionName) × n.type.Carrier) :
    writeOption .empty e = writeOption (sectionOf .empty .empty) e := rfl

/-- Values are added to the section one after the other. -/
private theorem foldlM_writeOption {as : Assignment} (h : ∀ e ∈ as, Writable e.1.type e.2)
    (t : Table) (help : HelpTable) :
    as.foldlM writeOption (sectionOf t help) =
      .ok (sectionOf
        (as.foldl (fun t e => t.put e.1.key (.text (fileText e.1.type e.2))) t)
        (as.foldl (fun help e => help.put e.1.key e.1.help) help)) := by
  -- on the values; each is put into what those before it have left
  induction as generalizing t help with
  | nil => rfl
  | cons e as ih =>
    obtain ⟨he, has⟩ := List.forall_mem_cons.1 h
    rw [List.foldlM_cons, writeOption_sectionOf he]
    exact ih has _ _

/-- The document of values is made without a refusal. -/
theorem fileDocument_eq {as : Assignment} (h : ∀ e ∈ as, Writable e.1.type e.2) :
    fileDocument as = .ok as.document := by
  cases as with
  | nil => rfl
  | cons e as =>
    have hsection := foldlM_writeOption h .empty .empty
    -- the section that the first value makes may as well be there before it
    rw [List.foldlM_cons, ← writeOption_empty, ← List.foldlM_cons] at hsection
    rw [fileDocument, hsection, Assignment.document, if_neg (List.cons_ne_nil e as),
      Assignment.table, Assignment.help, OrderedMap.ofList, OrderedMap.ofList,
      List.foldl_map, List.foldl_map]

/-! ## The document as it is written -/

/-- The keys of options are read as they are written. -/
private theorem plain_key (n : OptionName) : PlainOptionName n.key where
  nonempty := by cases n <;> decide
  lowerCase := lower_key n
  stripped := by cases n <;> decide
  undelimited := by cases n <;> decide
  oneLine := by cases n <;> decide
  start := by
    have hletters : n.key.toList.head?.all Char.isLower = true := by cases n <;> decide
    intro c hc
    have hletter := (Option.all_eq_true _ _).1 hletters c hc
    refine ⟨?_, ?_, ?_⟩ <;> rintro rfl <;> cases hletter

/-- The help for an option stands on one line. -/
private theorem plain_help (n : OptionName) : '\n' ∉ n.help.toList ∧ '\r' ∉ n.help.toList := by
  -- as a list of characters a literal is quick to look through
  suffices h : ∃ cs, n.help = String.ofList cs ∧ '\n' ∉ cs ∧ '\r' ∉ cs by
    obtain ⟨cs, hcs, hplain⟩ := h
    rwa [hcs, String.toList_ofList]
  cases n <;> exact ⟨_, rfl, by decide, by decide⟩

/-- A section holds texts for options, each on one line as it is, and the help for them. -/
structure Lists (ts : List (OptionName × String)) (t : Table) (help : HelpTable) : Prop where
  table : t.entries = ts.map fun e => (e.1.key, .text e.2)
  help : help.entries = ts.map fun e => (e.1.key, e.1.help)
  plain : ∀ e ∈ ts, PlainText e.2.toList

section Lists

variable {ts : List (OptionName × String)} {t : Table} {help : HelpTable} (h : Lists ts t help)

include h

/-- The section is read as it is written. -/
private theorem Lists.plainTable : PlainTable t where
  names e he := by
    rw [h.table] at he
    obtain ⟨e, -, rfl⟩ := List.mem_map.1 he
    exact plain_key e.1
  values e he := by
    rw [h.table] at he
    obtain ⟨e, hmem, rfl⟩ := List.mem_map.1 he
    exact ⟨_, rfl, (h.plain e hmem).stripped, (h.plain e hmem).oneLine⟩

/-- So is the help for it. -/
private theorem Lists.plainHelp : PlainHelp help := by
  intro e he
  rw [h.help] at he
  obtain ⟨e, -, rfl⟩ := List.mem_map.1 he
  exact (plain_help e.1).1

/-- A document with such a section is read as it is written. -/
theorem Lists.plain_sectionOf : (sectionOf t help).Plain := by
  have hsections : ∀ e ∈ (sectionOf t help).document.sections.entries, e = (optionSection, t) :=
    fun e he => List.mem_singleton.1 he
  have hhelps : ∀ e ∈ (sectionOf t help).help.entries, e = (optionSection, help) :=
    fun e he => List.mem_singleton.1 he
  refine ⟨⟨nofun, nofun⟩, fun e he => ?_, fun e he => ?_, ?_, fun e he => ?_⟩
  · rw [hsections e he]
    show PlainSectionName optionSection
    exact ⟨by decide, by decide⟩
  · rw [hsections e he]
    exact h.plainTable
  · have hname : defaultsName ≠ optionSection := by decide
    exact fun hmem => hname (List.mem_singleton.1 hmem)
  · rw [hhelps e he]
    exact h.plainHelp

/-- No carriage return is written for an option. -/
private theorem Lists.noReturn_entry {e : OptionName × String} (he : e ∈ ts) :
    '\r' ∉ (entryText (delimiter true) (help.get? e.1.key) e.1.key (.text e.2)).toList := by
  have hget : help.get? e.1.key = some e.1.help := by
    rw [OrderedMap.get?_eq_some_iff, h.help]
    exact List.mem_map.2 ⟨e, he, rfl⟩
  have hkey : '\r' ∉ e.1.key.toList := by cases e.1 <;> decide
  have hdelimiter : '\r' ∉ (delimiter true).toList := by decide
  rw [hget, toList_entryText]
  simp [helpChars, hkey, hdelimiter, (plain_help e.1).2, (h.plain e he).noReturn]

/-- No carriage return is written. -/
theorem Lists.noReturn_write : '\r' ∉ (sectionOf t help).write.toList := by
  have hwrite : (sectionOf t help).write.toList =
      (tableText (delimiter true) help optionSection t).toList := by
    simp [Annotated.write, documentText, sectionOf, OrderedMap.put, OrderedMap.putEntry,
      OrderedMap.empty, OrderedMap.isEmpty, OrderedMap.get?, OrderedMap.find?]
  -- none in the options, in the header, or in the rule
  have hentries : '\r' ∉ t.entries.flatMap fun e =>
      (entryText (delimiter true) (help.get? e.1) e.1 e.2).toList := by
    rw [h.table]
    intro hmem
    obtain ⟨_, he, hreturn⟩ := List.mem_flatMap.1 hmem
    obtain ⟨given, hgiven, rfl⟩ := List.mem_map.1 he
    exact h.noReturn_entry hgiven hreturn
  have hheader : '\r' ∉ '[' :: (optionSection.toList ++ [']', '\n']) := by decide
  have hrule : '\r' ∉ '#' :: (List.replicate 40 '-' ++ ['\n']) ++ ['\n'] := by decide
  rw [hwrite, toList_tableText, List.mem_append, List.mem_append, List.mem_append]
  rintro (hline | hmem | hmem | hmem)
  · exact absurd hline (by decide)
  · exact hheader hmem
  · exact hentries hmem
  · exact hrule hmem

end Lists

section Plain

variable {as : Assignment}

/-- Different options have different keys. -/
theorem nodup_keys (hnames : as.names.Nodup) : (as.map fun e => e.1.key).Nodup := by
  have hkeys : (as.names.map OptionName.key).Nodup :=
    List.Pairwise.map _ (fun _ _ hne heq => hne (OptionName.key_injective heq)) hnames
  rwa [Assignment.names, List.map_map] at hkeys

/-- What is stored is stored in the order of the values. -/
private theorem entries_table (hnames : as.names.Nodup) :
    as.table.entries = as.map fun e => (e.1.key, .text (fileText e.1.type e.2)) :=
  OrderedMap.entries_ofList (by rw [List.map_map]; exact nodup_keys hnames)

/-- The help is in the same order. -/
private theorem entries_help (hnames : as.names.Nodup) :
    as.help.entries = as.map fun e => (e.1.key, e.1.help) :=
  OrderedMap.entries_ofList (by rw [List.map_map]; exact nodup_keys hnames)

variable (hnames : as.names.Nodup) (h : ∀ e ∈ as, Writable e.1.type e.2)

include hnames h

/-- The section of an assignment holds what is written for its values. -/
private theorem lists_assignment :
    Lists (as.map fun e => (e.1, fileText e.1.type e.2)) as.table as.help where
  table := by rw [entries_table hnames, List.map_map]; rfl
  help := by rw [entries_help hnames, List.map_map]; rfl
  plain e he := by
    obtain ⟨given, hgiven, rfl⟩ := List.mem_map.1 he
    rw [fileText_eq (h given hgiven), doublePercents, String.toList_ofList]
    exact (plain_optionText (h given hgiven)).doubled

/-- The document of values is read as it is written. -/
theorem plain_document : as.document.Plain := by
  unfold Assignment.document
  split
  · exact ⟨⟨nofun, nofun⟩, nofun, nofun, List.not_mem_nil, nofun⟩
  · exact (lists_assignment hnames h).plain_sectionOf

/-- No carriage return is written. -/
theorem noReturn_write : '\r' ∉ as.document.write.toList := by
  unfold Assignment.document
  split
  · decide
  · exact (lists_assignment hnames h).noReturn_write

end Plain

/-! ## The document as it is read -/

/-- The file that the document of values is written to holds that document. -/
theorem documentOf_write {as : Assignment} (hnames : as.names.Nodup)
    (h : ∀ e ∈ as, Writable e.1.type e.2) {tree : FileTree} {path : String}
    (hfile : tree.read? (Path.ofText path) = some (.text as.document.write)) :
    documentOf tree (some path) = .ok as.document.document := by
  have hlines := readLines_write (plain_document hnames h).legible true path
  -- a text without carriage returns is read as it is in the file
  simp only [documentOf, documentAt, hfile, readFile,
    normalizeNewlines_eq_self (noReturn_write hnames h), hlines, readFile.finish]

/-- An option is found in the document of values if it has one. -/
theorem found_document_iff {as : Assignment} {n : OptionName} :
    Found as.document.document n ↔ n ∈ as.names := by
  unfold Assignment.document
  -- without values there is no section
  by_cases has : as = []
  · subst has
    rw [if_pos rfl]
    constructor
    · rintro ⟨t, ht, -⟩
      cases ht
    · intro hn
      cases hn
  · have hsection := get?_sectionOf as.table as.help
    have hkey : n.key ∈ as.table.keys ↔ n ∈ as.names := by
      rw [Assignment.table, OrderedMap.mem_keys_ofList, List.map_map, Assignment.names]
      simp only [List.mem_map, Function.comp_apply]
      exact exists_congr fun e => and_congr_right fun _ =>
        ⟨OptionName.key_injective, congrArg OptionName.key⟩
    rw [if_neg has, ← hkey]
    constructor
    · rintro ⟨t, ht, hown | hdefault⟩
      · rw [hsection, Option.some.injEq] at ht
        exact ht ▸ hown
      · cases hdefault
    · exact fun hown => ⟨as.table, hsection, .inl hown⟩

/-- What is found for an option in the document of values is its value. -/
theorem reads_document {as : Assignment} (hnames : as.names.Nodup)
    (h : ∀ e ∈ as, Writable e.1.type e.2) {n : OptionName} {v : n.type.Carrier}
    (hv : ⟨n, v⟩ ∈ as) : Reads as.document.document n v := by
  have has : as ≠ [] := List.ne_nil_of_mem hv
  have hsection := get?_sectionOf as.table as.help
  have hwritable := h ⟨n, v⟩ hv
  have htext : as.table.get? n.key = some (.text (doublePercents (optionText n.type v))) := by
    rw [OrderedMap.get?_eq_some_iff, entries_table hnames, ← fileText_eq hwritable]
    exact List.mem_map.2 ⟨⟨n, v⟩, hv, rfl⟩
  -- what is stored for the option is what was written for it
  have hraw : as.document.document.raw optionSection n.key =
      .ok (.text (doublePercents (optionText n.type v))) := by
    rw [Assignment.document, if_neg has]
    simp [Document.raw, Document.hasSection_of_get? hsection, Document.find?, hsection,
      lower_key, htext]
  exact ⟨_, get_doubled hraw, readAs_optionText hwritable⟩

end JavaFragments.Options
