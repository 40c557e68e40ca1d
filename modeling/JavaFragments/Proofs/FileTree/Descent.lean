import JavaFragments.Proofs.FileTree.Occupant
import JavaFragments.Proofs.FileTree.PlainPath

/-! # Places that are found by going down

A walk down from the working directory gets as far as there are directories.  Within the
limits of names and paths nothing else keeps it from its end, unless a file is on the way:

* `walk_cases`      where a walk down ends, and why
* `locate_eq_ok`    a path that leads somewhere leads there from directory to directory
* `locate_cases`    within the limits it leads somewhere, or a directory is missing -/

namespace JavaFragments.FileTree

open JavaFragments.Path

variable {t : FileTree} {w : Trail} {names : List String}

/-- The place at the end of names from another place on. -/
def descend (t : FileTree) (w : Trail) (names : List String) : Trail := names.foldl t.enter w

/-- The place at the end of names is called by all of them. -/
theorem names_descend (t : FileTree) (w : Trail) (names : List String) :
    (t.descend w names).names = w.names ++ names := by
  induction names generalizing w with
  | nil => rw [descend, List.foldl_nil, List.append_nil]
  | cons name names ih =>
    rw [descend, List.foldl_cons, ← descend, ih]
    simp [enter, Trail.names]

/-! ## Walks -/

/-- What is seen from a place at the end of names. -/
def seen? (t : FileTree) (w : Trail) (names : List String) : Option Occupant :=
  (t.here w).bind (·.occupant? names)

/-- From the working directory is seen what is at the names. -/
private theorem seen?_start (t : FileTree) (names : List String) :
    t.seen? [] names = t.occupant? names :=
  rfl

/-- A step down takes the first of the names. -/
private theorem seen?_enter (t : FileTree) (w : Trail) (name : String) (names : List String) :
    t.seen? (t.enter w name) names = t.seen? w (name :: names) := by
  show ((t.here w).bind (·.child? name)).bind _ = _
  unfold seen?
  cases t.here w with
  | none => rfl
  | some n => exact (n.occupant?_cons name names).symm

/-- Steps down take names one after the other. -/
theorem seen?_descend (t : FileTree) (w : Trail) (names more : List String) :
    t.seen? (t.descend w names) more = t.seen? w (names ++ more) := by
  induction names generalizing w with
  | nil => rfl
  | cons name names ih =>
    rw [descend, List.foldl_cons, ← descend, ih, seen?_enter, List.cons_append]

/-- A place is a directory if one is seen right there. -/
private theorem isDirectory_iff_seen? :
    t.isDirectory w = true ↔ t.seen? w [] = some .directory := by
  unfold isDirectory seen?
  cases t.here w with
  | none => simp
  | some n => simp [Node.isDirectory_iff]

/-- There is something at a place if anything is seen there. -/
private theorem isPresent_iff_seen? : t.isPresent w = true ↔ t.seen? w [] ≠ none := by
  unfold isPresent seen?
  cases t.here w <;> simp

/-- One step down. -/
theorem walk_cons {name : String} (h : name ≠ "" ∧ name ≠ "." ∧ name ≠ "..") :
    t.walk w (name :: names) =
      if t.seen? w [] = some .directory then
        if isTooLong name then .error .tooLong else t.walk (t.enter w name) names
      else .error (if t.seen? w [] = none then .missing else .notADirectory) := by
  have hstep : ¬ (name = "" ∨ name = ".") := not_or.2 ⟨h.1, h.2.1⟩
  rw [walk, if_neg hstep, if_neg h.2.2]
  -- from a directory the walk goes on, and from anything else it does not
  by_cases hdirectory : t.seen? w [] = some .directory
  · rw [if_pos hdirectory, isDirectory_iff_seen?.2 hdirectory]
    rfl
  · have hnot : t.isDirectory w = false :=
      Bool.eq_false_iff.2 fun hd => hdirectory (isDirectory_iff_seen?.1 hd)
    rw [if_neg hdirectory, hnot, Bool.not_false, if_pos rfl]
    by_cases hnone : t.seen? w [] = none
    · have habsent : ¬ t.isPresent w = true := fun hp => isPresent_iff_seen?.1 hp hnone
      rw [if_pos hnone, if_neg habsent]
    · rw [if_neg hnone, if_pos (isPresent_iff_seen?.2 hnone)]

/-- A walk down gets to its end if it passes directories only, or ends before: at a name that
    is too long, where nothing is, or at a file. -/
theorem walk_cases (t : FileTree) (w : Trail) (hdown : LeadDown names) :
    (t.walk w names = .ok (t.descend w names) ∧
        ∀ above, Above above names → t.seen? w above = some .directory) ∨
      (t.walk w names = .error .tooLong ∧ ∃ name ∈ names, isTooLong name = true) ∨
      (t.walk w names = .error .missing ∧
        ∃ above, Above above names ∧ t.seen? w above = none) ∨
      t.walk w names = .error .notADirectory ∧
        ∃ above content, Above above names ∧ t.seen? w above = some (.file content) := by
  -- on the names; what is behind the first one is seen from the place that it leads to
  induction names generalizing w with
  | nil => exact .inl ⟨rfl, fun above habove => absurd habove (not_above_nil above)⟩
  | cons name names ih =>
    obtain ⟨hname, hdown⟩ := List.forall_mem_cons.1 hdown
    have htop := above_nil_cons name names
    rw [walk_cons hname]
    cases hseen : t.seen? w [] with
    | none => exact .inr (.inr (.inl ⟨rfl, [], htop, hseen⟩))
    | some occupant =>
      cases occupant with
      | file content => exact .inr (.inr (.inr ⟨rfl, [], content, htop, hseen⟩))
      | directory =>
        cases hlong : isTooLong name with
        | true => exact .inr (.inl ⟨rfl, name, List.mem_cons_self, hlong⟩)
        | false =>
          -- what is seen from the next place on is behind the name
          rcases ih (t.enter w name) hdown with ⟨hwalk, hpassed⟩ | ⟨hwalk, long, hmem, hlong⟩ |
            ⟨hwalk, above, habove, hnone⟩ | ⟨hwalk, above, content, habove, hfile⟩
          · refine .inl ⟨hwalk, fun above habove => ?_⟩
            rcases above_cons_iff.1 habove with rfl | ⟨more, rfl, hmore⟩
            · exact hseen
            · exact seen?_enter t w name more ▸ hpassed more hmore
          · exact .inr (.inl ⟨hwalk, long, List.mem_cons_of_mem name hmem, hlong⟩)
          · rw [seen?_enter] at hnone
            exact .inr (.inr (.inl ⟨hwalk, name :: above, habove.cons name, hnone⟩))
          · rw [seen?_enter] at hfile
            exact .inr (.inr (.inr ⟨hwalk, name :: above, content, habove.cons name, hfile⟩))

/-! ## Paths -/

/-- No name holds the character that ends names. -/
def NullFree (names : List String) : Prop := ∀ name ∈ names, '\x00' ∉ name.toList

/-- The test for that character. -/
private theorem isNullFree_iff : isNullFree names = true ↔ NullFree names := by
  simp [isNullFree, NullFree, String.contains_char_eq]

/-- Names that can be looked up, none of them too long, and not too long as a path. -/
structure Nameable (names : List String) : Prop where
  nullFree : NullFree names
  short : ∀ name ∈ names, name.utf8ByteSize ≤ maxNameBytes
  path : (⟨0, names⟩ : Path).text.utf8ByteSize ≤ maxPathBytes

/-- What leads to names within the limits is within the limits as well. -/
theorem Nameable.of_start {others : List String} (h : Nameable others)
    (hstart : names <+: others) : Nameable names where
  nullFree name hname := h.nullFree name (hstart.subset hname)
  short name hname := h.short name (hstart.subset hname)
  path := Nat.le_trans (size_text_le hstart) h.path

/-- A directory is at all names above. -/
def HasDirectories (t : FileTree) (names : List String) : Prop :=
  ∀ above, Above above names → t.occupant? above = some .directory

/-- No file is at any names above. -/
def Unobstructed (t : FileTree) (names : List String) : Prop :=
  ∀ above, Above above names → ∀ content, t.occupant? above ≠ some (.file content)

/-- Directories are no files. -/
theorem HasDirectories.unobstructed (h : t.HasDirectories names) : t.Unobstructed names := by
  intro above habove content hfile
  rw [h above habove] at hfile
  cases hfile

/-- What is above something are directories. -/
theorem hasDirectories_of_occupant (h : t.occupant? names ≠ none) : t.HasDirectories names :=
  fun _ habove => Node.directory_of_above h habove

/-- Nothing is behind what is not a directory. -/
theorem occupant?_eq_none {above : List String} (habove : Above above names)
    (h : t.occupant? above ≠ some .directory) : t.occupant? names = none := by
  by_cases hnone : t.occupant? names = none
  · exact hnone
  · exact absurd (hasDirectories_of_occupant hnone above habove) h

/-- A directory has only directories on its way. -/
theorem directory_of_start {others : List String} (h : t.occupant? others = some .directory)
    (hstart : names <+: others) : t.occupant? names = some .directory := by
  by_cases he : names = others
  · rw [he, h]
  · exact hasDirectories_of_occupant (h ▸ nofun) names ⟨hstart, he⟩

/-- A path that leads somewhere leads there down from directory to directory. -/
theorem locate_eq_ok (hdown : LeadDown names) (h : t.locate ⟨0, names⟩ = .ok w) :
    w = t.descend [] names ∧ t.HasDirectories names ∧ NullFree names := by
  -- a name with a null, and a path that is too long, lead nowhere
  unfold locate at h
  split at h
  · cases h
  rename_i hnull
  split at h
  · cases h
  split at h
  · cases h
  have hnull : NullFree names := isNullFree_iff.1 (by simpa using hnull)
  replace h : t.walk [] names = .ok w := h
  rcases walk_cases t [] hdown with ⟨hwalk, hpassed⟩ | ⟨hwalk, -⟩ | ⟨hwalk, -⟩ | ⟨hwalk, -⟩
  · exact ⟨Except.ok.inj (h.symm.trans hwalk), hpassed, hnull⟩
  all_goals
    rw [hwalk] at h
    cases h

/-- Nothing is at the end of a path that leads nowhere, unless the names are of no use. -/
theorem occupant?_of_locate_error (hdown : LeadDown names) (hne : names ≠ [])
    (hnull : NullFree names) {o : Obstacle} (h : t.locate ⟨0, names⟩ = .error o)
    (ho : o ≠ .tooLong) : t.occupant? names = none := by
  have hpath : (⟨0, names⟩ : Path) ≠ ⟨0, []⟩ := fun he => hne (Path.mk.inj he).2
  unfold locate at h
  rw [isNullFree_iff.2 hnull, if_neg hpath] at h
  split at h
  · contradiction
  split at h
  · exact absurd (Except.error.inj h).symm ho
  replace h : t.walk [] names = .error o := h
  -- the walk ended before it came to the names
  rcases walk_cases t [] hdown with ⟨hwalk, -⟩ | ⟨hwalk, -⟩ |
    ⟨hwalk, above, hmem, hnone⟩ | ⟨hwalk, above, content, hmem, hfile⟩
  · rw [hwalk] at h
    cases h
  · exact absurd (Except.error.inj (h.symm.trans hwalk)) ho
  -- what is missing, or a file, has nothing behind it
  · exact occupant?_eq_none hmem (by rw [← seen?_start, hnone]; nofun)
  · exact occupant?_eq_none hmem (by rw [← seen?_start, hfile]; nofun)

/-- A path that is not too long leads where a walk leads. -/
theorem locate_eq_walk (hne : names ≠ []) (hnull : NullFree names)
    (hsize : (⟨0, names⟩ : Path).text.utf8ByteSize ≤ maxPathBytes) :
    t.locate ⟨0, names⟩ = t.walk [] names := by
  have hpath : (⟨0, names⟩ : Path) ≠ ⟨0, []⟩ := fun he => hne (Path.mk.inj he).2
  unfold locate
  rw [isNullFree_iff.2 hnull, if_neg (Nat.not_lt.2 hsize), if_neg hpath]
  rfl

section Limits

variable (hdown : LeadDown names) (hne : names ≠ []) (hlimits : Nameable names)

include hdown hne hlimits

/-- A path within the limits, with no file on the way, leads somewhere unless a directory is
    missing. -/
theorem locate_cases (hopen : t.Unobstructed names) :
    (t.locate ⟨0, names⟩ = .ok (t.descend [] names) ∧ t.HasDirectories names) ∨
      (t.locate ⟨0, names⟩ = .error .missing ∧
        ∃ above, Above above names ∧ t.occupant? above = none) := by
  rw [locate_eq_walk hne hlimits.nullFree hlimits.path]
  rcases walk_cases t [] hdown with hpassed | ⟨-, name, hmem, hlong⟩ | hmissing |
    ⟨-, above, content, habove, hfile⟩
  · exact .inl hpassed
  · -- no name is too long
    have hshort : ¬ isTooLong name = true :=
      fun hlong => Nat.not_lt.2 (hlimits.short name hmem) (of_decide_eq_true hlong)
    exact absurd hlong hshort
  · exact .inr hmissing
  · exact absurd hfile (hopen above habove content)

/-- A path within the limits leads through directories to its end. -/
theorem locate_of_hasDirectories (h : t.HasDirectories names) :
    t.locate ⟨0, names⟩ = .ok (t.descend [] names) := by
  rcases locate_cases hdown hne hlimits h.unobstructed with ⟨hlocate, -⟩ | ⟨-, above, habove, hnone⟩
  · exact hlocate
  · rw [h above habove] at hnone
    cases hnone

/-- It leads nowhere if one of them is missing. -/
theorem locate_of_missing (hopen : t.Unobstructed names) {above : List String}
    (habove : Above above names) (hnone : t.occupant? above = none) :
    t.locate ⟨0, names⟩ = .error .missing := by
  rcases locate_cases hdown hne hlimits hopen with ⟨-, hdirectories⟩ | ⟨hlocate, -⟩
  · rw [hdirectories above habove] at hnone
    cases hnone
  · exact hlocate

end Limits

/-! ## What is at the end of a path -/

/-- What a walk finds at its end is what is at the names. -/
theorem isDirectory_descend :
    t.isDirectory (t.descend [] names) = true ↔ t.occupant? names = some .directory := by
  rw [isDirectory_iff_seen?, seen?_descend, List.append_nil]
  rfl

/-- There is something at its end if there is something at the names. -/
theorem isPresent_descend :
    t.isPresent (t.descend [] names) = true ↔ t.occupant? names ≠ none := by
  rw [isPresent_iff_seen?, seen?_descend, List.append_nil]
  rfl

end JavaFragments.FileTree
