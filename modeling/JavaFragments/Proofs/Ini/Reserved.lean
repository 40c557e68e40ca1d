import JavaFragments.Proofs.Ini.Lasting
import JavaFragments.Proofs.Ini.Storing

/-! # The reserved name

The name of the defaults is no name of a section.  Whatever is done to a document with help,
and whether it fails or not, no section of that name comes into being:

* `unreserved_addSection`, `unreserved_set`   sections and options that are added
* `unreserved_readText`                       a source that is read
* `Annotated.Made.unreserved`                 every document that is made by these operations -/

namespace JavaFragments.Ini

/-- No section has the name of the defaults. -/
def Document.Unreserved (d : Document) : Prop := defaultsName ∉ d.sections.keys

namespace Document

/-- A table is put under another name. -/
private theorem unreserved_put {d : Document} (h : d.Unreserved) {name : String}
    (hn : name ≠ defaultsName)
    (t : Table) : ({ d with sections := d.sections.put name t } : Document).Unreserved := by
  intro hmem
  rcases OrderedMap.mem_keys_put.1 hmem with heq | hmem
  · exact hn heq.symm
  · exact h hmem

/-- A table is changed where it is. -/
private theorem unreserved_modifyTable {d : Document} (h : d.Unreserved) (name : String)
    (f : Table → Table) : (d.modifyTable name f).Unreserved := by
  unfold modifyTable
  -- the defaults are no section
  split
  · exact h
  · intro hmem
    rw [OrderedMap.keys_modify] at hmem
    exact h hmem

/-- A section of the reserved name is refused. -/
theorem unreserved_addSection {d d' : Document} (h : d.Unreserved) {name : String}
    (hd : d.addSection name = .ok d') : d'.Unreserved := by
  unfold addSection at hd
  split at hd
  · exact nomatch hd
  · rename_i hn
    split at hd
    · exact nomatch hd
    · exact Except.ok.inj hd ▸ unreserved_put h hn _

/-- Settling the values changes no name. -/
private theorem unreserved_settle {d : Document} (h : d.Unreserved) : d.settle.Unreserved := by
  intro hmem
  exact h ((OrderedMap.keys_map _ d.sections) ▸ hmem)

end Document

/-! ## Reading -/

/-- Nothing in a source makes a section of the reserved name. -/
theorem lasting_unreserved : Document.Lasting Document.Unreserved where
  modifyTable := Document.unreserved_modifyTable
  put h _ hname := Document.unreserved_put h hname _
  settle := Document.unreserved_settle

/-- Neither do the lines of a source make one, as far as they are read. -/
theorem unreserved_readLines {d : Document} (h : d.Unreserved) (source : String)
    (lines : List (List Char)) : (d.readLines source lines).2.Unreserved :=
  lasting_unreserved.readLines h source lines

/-! ## Documents with help -/

/-- Whether a section is added or refused, none has the reserved name. -/
theorem unreserved_addSection {a : Annotated} (h : a.document.Unreserved) (name : String) :
    (a.addSection name).2.document.Unreserved := by
  unfold Annotated.addSection
  cases hd : a.document.addSection name with
  | error e => exact h
  | ok d => exact Document.unreserved_addSection h hd

/-- Nor has one after an option was set, or was refused. -/
theorem unreserved_set {a : Annotated} (h : a.document.Unreserved) (sectionName option : String)
    (value? help? : Option String) :
    (a.set sectionName option value? help?).2.document.Unreserved :=
  Annotated.set_keeps (I := fun a => a.document.Unreserved)
    (fun _ name h => unreserved_addSection h name)
    (fun _ _ hkeys _ h => by rwa [Document.Unreserved, hkeys]) h sectionName option value? help?

/-- Nor after a text was read, or was refused. -/
theorem unreserved_readText {a : Annotated} (h : a.document.Unreserved) (text : String) :
    (a.readText text).2.document.Unreserved :=
  unreserved_readLines h Document.textSource _

/-- A document with help that was made by adding sections, setting options and reading, also
    where that failed. -/
inductive Annotated.Made : Annotated → Prop
  | empty : Made .empty
  | addSection {a : Annotated} (name : String) : Made a → Made (a.addSection name).2
  | set {a : Annotated} (sectionName option : String) (value? help? : Option String) :
      Made a → Made (a.set sectionName option value? help?).2
  | readText {a : Annotated} (text : String) : Made a → Made (a.readText text).2

/-- No document that is made has a section with the name of the defaults. -/
theorem Annotated.Made.unreserved {a : Annotated} (h : a.Made) : a.document.Unreserved := by
  -- on what was done to make the document
  induction h with
  | empty => exact List.not_mem_nil
  | addSection name _ ih => exact unreserved_addSection ih name
  | set sectionName option value? help? _ ih =>
    exact unreserved_set ih sectionName option value? help?
  | readText text _ ih => exact unreserved_readText ih text

end JavaFragments.Ini
