import JavaFragments.Proofs.Options.FileAgreement

/-! # The text of the sample file

The sample file gives every option its default, and is read as that:

* `sampleDocument_eq`      the document that is written
* `readFile_sampleText`    a file with the text holds that document
* `ofSources_sample`       the options of the document are the defaults -/

namespace JavaFragments.Options

open Ini Number Text

/-- The text of an option in the sample file. -/
def defaultText (n : OptionName) : String := optionText n.type (defaults.get n)

/-! ## The texts of the defaults -/

/-- The default of the weight is all that is no value to be written by an assignment. -/
private theorem writable_default {n : OptionName} (h : n ≠ .tryCatchWeight) :
    Writable n.type (defaults.get n) := by
  cases n with
  | tryCatchWeight => exact absurd rfl h
  | seed => exact nofun
  | randomVoid => trivial
  | exceptionClass => exact ⟨by decide, by decide, by decide⟩
  | throwMessage => exact ⟨by decide, by decide, by decide⟩
  | _ => exact fits_of_short (by decide)

/-- The default of the weight is written with one digit behind the point. -/
private theorem defaultText_weight : defaultText .tryCatchWeight = "0.6" := by
  show defaults.tryCatchWeight.text = "0.6"
  decide +kernel

/-- That is read as the default again. -/
private theorem readFloat_defaultText :
    readFloat (defaultText .tryCatchWeight) = .ok defaults.tryCatchWeight := by
  have hread : (readFloat "0.6").toOption = some defaults.tryCatchWeight := by decide +kernel
  rw [defaultText_weight]
  cases h : readFloat "0.6" with
  | ok x =>
    rw [h] at hread
    exact congrArg _ (Option.some.inj hread)
  | error cause =>
    rw [h] at hread
    cases hread

/-- What is written for a default is read as the default. -/
private theorem readAs_defaultText (n : OptionName) :
    readAs n.type (defaultText n) = .ok (defaults.get n) := by
  by_cases h : n = .tryCatchWeight
  · subst h
    exact readFloat_defaultText
  · exact readAs_optionText (writable_default h)

/-- Every default stands on one line as it is. -/
private theorem plain_defaultText (n : OptionName) : PlainText (defaultText n).toList := by
  by_cases h : n = .tryCatchWeight
  · subst h
    rw [defaultText_weight]
    exact ⟨by decide, by decide, by decide⟩
  · exact plain_optionText (writable_default h)

/-- No default has a percent sign. -/
private theorem doublePercents_defaultText (n : OptionName) :
    doublePercents (defaultText n) = defaultText n := by
  have hplain : '%' ∉ (defaultText n).toList := by
    cases n <;> decide +kernel
  rw [doublePercents, doubled_of_not_mem hplain, String.ofList_toList]

/-! ## The document of the defaults -/

/-- What is stored for the defaults. -/
def sampleTable : Table := .ofList (OptionName.all.map fun n => (n.key, .text (defaultText n)))

/-- The help for all options. -/
def sampleHelp : HelpTable := .ofList (OptionName.all.map fun n => (n.key, n.help))

/-- A default more for the section of the options. -/
private theorem addOption_sectionOf (n : OptionName) (t : Table) (help : HelpTable) :
    addOption defaults (sectionOf t help) n =
      sectionOf (t.put n.key (.text (defaultText n))) (help.put n.key n.help) := by
  have hset := set_sectionOf n (defaultText n) t help
  rw [doublePercents_defaultText] at hset
  exact congrArg Prod.snd hset

/-- Defaults are added to the section one after the other. -/
private theorem foldl_addOption (ns : List OptionName) (t : Table) (help : HelpTable) :
    ns.foldl (addOption defaults) (sectionOf t help) =
      sectionOf (ns.foldl (fun t n => t.put n.key (.text (defaultText n))) t)
        (ns.foldl (fun help n => help.put n.key n.help) help) := by
  induction ns generalizing t help with
  | nil => rfl
  | cons n ns ih => rw [List.foldl_cons, addOption_sectionOf, ih, List.foldl_cons, List.foldl_cons]

/-- The document that is written has all defaults in the section of the options. -/
theorem sampleDocument_eq : sampleDocument = sectionOf sampleTable sampleHelp := by
  have hall := foldl_addOption OptionName.all .empty .empty
  -- the first option brings the section with it
  have hfirst : OptionName.all.foldl (addOption defaults) (sectionOf .empty .empty) =
      sampleDocument := rfl
  rw [← hfirst, hall, sampleTable, sampleHelp, OrderedMap.ofList, OrderedMap.ofList,
    List.foldl_map, List.foldl_map]

/-- All options have different keys. -/
private theorem nodup_allKeys : (OptionName.all.map OptionName.key).Nodup := by decide

/-- The section of the options lists all defaults. -/
private theorem lists_sample :
    Lists (OptionName.all.map fun n => (n, defaultText n)) sampleTable sampleHelp where
  table := by
    rw [sampleTable, OrderedMap.entries_ofList (by rw [List.map_map]; exact nodup_allKeys),
      List.map_map]
    rfl
  help := by
    rw [sampleHelp, OrderedMap.entries_ofList (by rw [List.map_map]; exact nodup_allKeys),
      List.map_map]
    rfl
  plain e he := by
    obtain ⟨n, -, rfl⟩ := List.mem_map.1 he
    exact plain_defaultText n

/-! ## Reading -/

/-- A file with the sample text holds the document that was written, wherever it is. -/
theorem readFile_sampleText (path : String) :
    readFile path (.text sampleText) = .ok sampleDocument.document := by
  have hheader : "# javagen default configuration file\n".toList =
      '#' :: (" javagen default configuration file".toList ++ ['\n']) := by
    decide +kernel
  have htext : sampleText.toList =
      '#' :: (" javagen default configuration file".toList ++ ['\n']) ++
        sampleDocument.write.toList := by
    rw [← hheader]
    exact String.toList_append
  have hcomment : '\n' ∉ " javagen default configuration file".toList := by decide +kernel
  -- no carriage return is written, so line ends stay what they are
  have hnoReturn : '\r' ∉ sampleText.toList := by
    rw [htext, sampleDocument_eq, List.mem_append, not_or]
    exact ⟨by decide +kernel, lists_sample.noReturn_write⟩
  have hlegible : sampleDocument.Legible := by
    rw [sampleDocument_eq]
    exact lists_sample.plain_sectionOf.legible
  -- the comment at the top is skipped, and the rest is the document
  have hlines := readLines_of_leads
    ((leads_comment hcomment _).trans (leads_legible hlegible true)) path
  rw [readFile, normalizeNewlines_eq_self hnoReturn, htext, hlines]
  rfl

/-- What is stored for an option is its default. -/
private theorem get?_sampleTable (n : OptionName) :
    sampleTable.get? n.key = some (.text (defaultText n)) := by
  rw [OrderedMap.get?_eq_some_iff, lists_sample.table, List.map_map]
  exact List.mem_map.2 ⟨n, OptionName.mem_all n, rfl⟩

/-- What is found in the document for an option is its default. -/
theorem reads_sample (n : OptionName) : Reads sampleDocument.document n (defaults.get n) := by
  have hsection := get?_sectionOf sampleTable sampleHelp
  have hraw : sampleDocument.document.raw optionSection n.key =
      .ok (.text (doublePercents (defaultText n))) := by
    rw [sampleDocument_eq, doublePercents_defaultText]
    simp [Document.raw, Document.hasSection_of_get? hsection, Document.find?, hsection,
      lower_key, get?_sampleTable]
  exact ⟨_, get_doubled hraw, readAs_defaultText n⟩

/-- The options of the document are the defaults. -/
theorem ofSources_sample : ofSources sampleDocument.document [] = .ok defaults := by
  -- everything is found in the file, and nothing is overridden
  refine ofSources_eq_ok_iff.2 ⟨fun n _ => ⟨_, reads_sample n⟩, nofun, ?_, consistent_defaults⟩
  exact ⟨nofun, fun n _ _ => reads_sample n, fun n _ _ => rfl⟩

end JavaFragments.Options
