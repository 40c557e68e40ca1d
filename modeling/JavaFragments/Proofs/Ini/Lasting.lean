import JavaFragments.Ini.Reader

/-! # What reading cannot undo

A source changes the options of tables and adds sections, and at its end the lines of all values
are put together.  A property of documents is `Lasting` if none of this can take it away; then it
is true of a document after any source, also after one that is given up on the way:

* `Lasting.step`        one line
* `Lasting.readLines`   a source, whether it is refused or not -/

namespace JavaFragments.Ini

/-- A property that nothing done to a table and no empty section more takes away. -/
structure Document.Lasting (I : Document → Prop) : Prop where
  modifyTable : ∀ {d : Document}, I d → ∀ (name : String) (f : Table → Table),
    I (d.modifyTable name f)
  put : ∀ {d : Document}, I d → ∀ {name : String}, name ≠ defaultsName →
    I { d with sections := d.sections.put name .empty }
  settle : ∀ {d : Document}, I d → I d.settle

namespace Document.Lasting

variable {I : Document → Prop} {p q : Progress} {source : String} {number : Nat}

/-- A line that goes on with a value changes a table. -/
theorem extend (h : Lasting I) (hp : I p.document) (line : List Char) :
    I (p.extend line).document := by
  unfold Progress.extend
  split
  · exact h.modifyTable hp _ _
  · exact hp

/-- A header adds an empty section or none. -/
theorem enter (h : Lasting I) (hp : I p.document) {name : String}
    (hq : p.enter source number name = .ok q) : I q.document := by
  unfold Progress.enter at hq
  split at hq
  · exact Except.ok.inj hq ▸ hp
  · rename_i hname
    split at hq
    · exact nomatch hq
    · obtain rfl := Except.ok.inj hq
      -- a section is added only if it is not there yet
      by_cases hthere : p.document.sections.contains name
      · simpa only [hthere, if_true] using hp
      · simpa only [hthere, Bool.false_eq_true, if_false] using h.put hp hname

/-- A new option changes a table. -/
theorem start (h : Lasting I) (hp : I p.document) {sectionName option : String}
    {value : List Char} (hq : p.start source number sectionName option value = .ok q) :
    I q.document := by
  unfold Progress.start at hq
  split at hq
  · exact nomatch hq
  · exact Except.ok.inj hq ▸ h.modifyTable hp _ _

/-- What is true before a line is true after it. -/
theorem step (h : Lasting I) (hp : I p.document) {line : List Char}
    (hq : p.step source number line = .ok q) : I q.document := by
  simp only [Progress.step] at hq
  -- by what stands on the line
  cases hline : Line.ofChars line with
  | comment =>
    rw [hline] at hq
    exact Except.ok.inj hq ▸ hp
  | blank =>
    rw [hline] at hq
    exact Except.ok.inj hq ▸ h.extend hp _
  | text indent content =>
    simp only [hline] at hq
    split at hq
    · exact Except.ok.inj hq ▸ h.extend hp _
    · -- the column that was noted is no part of the document
      have hp' : I ({ p with indent := indent } : Progress).document := hp
      generalize ({ p with indent := indent } : Progress) = p' at hq hp'
      cases hcontent : Content.ofChars content with
      | header name =>
        simp only [hcontent] at hq
        exact h.enter hp' hq
      | entry name value =>
        simp only [hcontent] at hq
        split at hq
        · exact nomatch hq
        · split at hq
          · exact h.start (p := p'.reject number line) hp' hq
          · exact h.start hp' hq
      | other =>
        simp only [hcontent] at hq
        split at hq
        · exact nomatch hq
        · exact Except.ok.inj hq ▸ hp'

/-- What is true before a source is read is true after it, whether the reading fails or not. -/
theorem readLines (h : Lasting I) {d : Document} (hd : I d) (source : String)
    (lines : List (List Char)) : I (d.readLines source lines).2 := by
  -- on the lines; a reading that fails leaves the document of the line before
  have hrun : ∀ (number : Nat) (p : Progress), I p.document →
      match Progress.run source number lines p with
      | .ok q => I q.document
      | .error e => I e.2 := by
    induction lines with
    | nil => exact fun _ _ hp => hp
    | cons line lines ih =>
      intro number p hp
      unfold Progress.run
      cases hstep : p.step source number line with
      | error e => exact hp
      | ok q => exact ih (number + 1) q (h.step hp hstep)
  have hread := hrun 1 { document := d } hd
  unfold Document.readLines
  cases hresult : Progress.run source 1 lines { document := d } with
  | error e =>
    rw [hresult] at hread
    exact hread
  | ok q =>
    rw [hresult] at hread
    exact h.settle hread

end Document.Lasting

end JavaFragments.Ini
