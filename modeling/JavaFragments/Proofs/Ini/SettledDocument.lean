import JavaFragments.Ini.Reader
import JavaFragments.Proofs.Text.Strip

/-! # Documents with their lines put together

While a source is read, the document is known by what it will be when the lines of its values
are put together.  `withTable` is how it grows:

* `settle_extend`        an empty line more is not seen
* `settle_startTable`    the value of an option that is started
* `settle_addTable`      a section that is added
* `table_withTable_self`, `modifyTable_withTable`, `withTable_withTable`   the laws of `withTable` -/

namespace JavaFragments.Ini

open Text

/-- An empty line behind a value goes when its lines are put together. -/
theorem settle_extend (v : RawValue) : (v.extend "").settle = v.settle := by
  cases v with
  | text s => rfl
  | lines ls =>
    show RawValue.text (String.ofList (stripRight (String.intercalate "\n" (ls ++ [""])).toList)) = _
    -- the empty line adds one line end, which is white space behind the others
    by_cases hls : ls = []
    · subst hls
      rfl
    · have hnewline : ∀ c ∈ "\n".toList, isBlank c = true := List.all_eq_true.1 (by decide)
      rw [String.intercalate_append_of_ne_nil hls (List.cons_ne_nil _ _),
        String.intercalate_singleton, String.append_empty, String.toList_append,
        stripRight_append hnewline]
      rfl

namespace Document

/-- The table of a name. -/
def table (d : Document) (name : String) : Table :=
  if name = defaultsName then d.defaults else (d.sections.get? name).getD .empty

/-- The document with a table under a name. -/
def withTable (d : Document) (name : String) (t : Table) : Document :=
  if name = defaultsName then { d with defaults := t }
  else { d with sections := d.sections.put name t }

/-- There is nothing under a name yet. -/
def Lacks (d : Document) (name : String) : Prop :=
  if name = defaultsName then d.defaults = .empty else name ∉ d.sections.keys

/-! ## Tables of a document -/

/-- The table that came under a name is found there. -/
theorem table_withTable_self (d : Document) (name : String) (t : Table) :
    (d.withTable name t).table name = t := by
  by_cases h : name = defaultsName
  · simp [table, withTable, h]
  · simp [table, withTable, h, OrderedMap.get?_put]

/-- The tables of other names stay. -/
private theorem table_withTable_ne (d : Document) {name other : String} (h : other ≠ name)
    (t : Table) :
    (d.withTable name t).table other = d.table other := by
  unfold table withTable
  -- the defaults are kept apart from the sections
  by_cases hn : name = defaultsName
  · subst hn
    simp [h]
  · by_cases ho : other = defaultsName
    · simp [hn, ho]
    · simp [hn, ho, OrderedMap.get?_put, Ne.symm h]

/-- A table is replaced by the next one under its name. -/
theorem withTable_withTable (d : Document) (name : String) (t t' : Table) :
    (d.withTable name t).withTable name t' = d.withTable name t' := by
  by_cases h : name = defaultsName
  · simp [withTable, h]
  · simp [withTable, h, OrderedMap.put_put]

/-- A table under its name is modified where it stands. -/
theorem modifyTable_withTable (d : Document) (name : String) (t : Table) (f : Table → Table) :
    (d.withTable name t).modifyTable name f = d.withTable name (f t) := by
  by_cases h : name = defaultsName
  · simp [withTable, modifyTable, h]
  · simp [withTable, modifyTable, h, OrderedMap.modify_put]

/-- Where there is nothing under a name, its table is empty. -/
theorem table_of_lacks {d : Document} {name : String} (h : d.Lacks name) :
    d.table name = .empty := by
  by_cases hn : name = defaultsName
  · simpa [Lacks, table, hn] using h
  · have hnone : d.sections.get? name = none :=
      (OrderedMap.get?_eq_none_iff _ _).2 (by simpa [Lacks, hn] using h)
    simp [table, hn, hnone]

/-- No section is lost when a table comes under a name. -/
theorem mem_sections_withTable {d : Document} {name : String} {t : Table} {other : String}
    (h : other ∈ d.sections.keys) : other ∈ (d.withTable name t).sections.keys := by
  by_cases hn : name = defaultsName
  · simpa [withTable, hn] using h
  · simp only [withTable, if_neg hn]
    exact OrderedMap.mem_keys_put.2 (Or.inr h)

/-- No option is lost when a table comes under a name that has the options there were. -/
theorem mem_table_withTable {d : Document} {name : String} {t : Table}
    (ht : ∀ option ∈ (d.table name).keys, option ∈ t.keys) {other option : String}
    (h : option ∈ (d.table other).keys) : option ∈ ((d.withTable name t).table other).keys := by
  by_cases ho : other = name
  · subst ho
    rw [table_withTable_self]
    exact ht option h
  · rw [table_withTable_ne d ho]
    exact h

/-! ## Putting the lines together -/

/-- What is done to a table is seen in the document as far as it is seen in the table. -/
private theorem settle_modifyTable {f g : Table → Table}
    (h : ∀ t : Table, (f t).map RawValue.settle = g (t.map RawValue.settle)) (d : Document)
    (name : String) : (d.modifyTable name f).settle = d.settle.modifyTable name g := by
  by_cases hn : name = defaultsName
  · simp only [modifyTable, hn, if_true, settle, h]
  · have hsections : (d.sections.modify name f).map (·.map RawValue.settle) =
        (d.sections.map (·.map RawValue.settle)).modify name g := OrderedMap.map_modify h _ _
    simp only [modifyTable, hn, if_false, settle, hsections]

/-- An empty line behind the value of an option is not seen. -/
theorem settle_extendTable (d : Document) (name option : String) :
    (d.modifyTable name (·.modify option (RawValue.extend ""))).settle = d.settle := by
  have hid : d.settle.modifyTable name id = d.settle := by
    by_cases hn : name = defaultsName
    · simp [modifyTable, hn]
    · simp [modifyTable, hn, OrderedMap.modify_id]
  -- once the lines are put together, the option is replaced by itself
  have hunseen : ∀ t : Table, (t.modify option (RawValue.extend "")).map RawValue.settle =
      id (t.map RawValue.settle) := by
    intro t
    have hmodify : (t.modify option (RawValue.extend "")).map RawValue.settle =
        (t.map RawValue.settle).modify option id := OrderedMap.map_modify settle_extend t option
    exact hmodify.trans (OrderedMap.modify_id _ _)
  rw [settle_modifyTable hunseen d name, hid]

/-- The value of an option that is started is what is left of its line. -/
theorem settle_startTable {value : List Char} (h : stripRight value = value) (d : Document)
    (name option : String) :
    (d.modifyTable name (·.put option (.lines [String.ofList value]))).settle =
      d.settle.modifyTable name (·.put option (.text (String.ofList value))) := by
  have hvalue : (RawValue.lines [String.ofList value]).settle = .text (String.ofList value) := by
    rw [RawValue.settle, String.intercalate_singleton, String.toList_ofList, h]
  apply settle_modifyTable
  intro t
  rw [OrderedMap.map_put, hvalue]

/-- A section that is added is empty. -/
theorem settle_addTable (d : Document) {name : String} (hn : name ≠ defaultsName) :
    ({ d with sections := d.sections.put name .empty } : Document).settle =
      d.settle.withTable name .empty := by
  have hsections : (d.sections.put name .empty).map (·.map RawValue.settle) =
      (d.sections.map (·.map RawValue.settle)).put name .empty := OrderedMap.map_put ..
  simp only [settle, withTable, if_neg hn, hsections]

/-- Putting lines together keeps the sections. -/
theorem keys_settle (d : Document) : d.settle.sections.keys = d.sections.keys :=
  OrderedMap.keys_map ..

end Document

end JavaFragments.Ini
