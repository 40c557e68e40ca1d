import JavaFragments.FileTree.Basic

/-! # What is where in a tree of files

`occupant?` tells for every place below the working directory whether a directory, a file or
nothing is there.  Names are above others if these go on where they end:

* `directory_of_above`   what is above something is a directory
* `occupant?_put`        where nothing was, something is put without a change anywhere else -/

namespace JavaFragments

/-! ## Names above others -/

/-- The names are a beginning of others that have more to them. -/
def Above (names others : List String) : Prop := names <+: others ∧ names ≠ others

/-- The same name before both. -/
theorem Above.cons {names others : List String} (h : Above names others) (name : String) :
    Above (name :: names) (name :: others) :=
  ⟨List.cons_prefix_cons.2 ⟨rfl, h.1⟩, fun he => h.2 (List.cons.inj he).2⟩

/-- No names are above every name. -/
theorem above_nil_cons (name : String) (names : List String) : Above [] (name :: names) :=
  ⟨List.nil_prefix, nofun⟩

/-- Nothing is above no names. -/
theorem not_above_nil (names : List String) : ¬ Above names [] :=
  fun h => h.2 (List.prefix_nil.1 h.1)

/-- Names above a path end before its first name, or start with it. -/
theorem above_cons_iff {name : String} {names others : List String} :
    Above others (name :: names) ↔
      others = [] ∨ ∃ more, others = name :: more ∧ Above more names := by
  constructor
  · intro h
    rcases List.prefix_cons_iff.1 h.1 with rfl | ⟨more, rfl, hmore⟩
    · exact .inl rfl
    · exact .inr ⟨more, rfl, hmore, fun he => h.2 (he ▸ rfl)⟩
  · intro h
    rcases h with rfl | ⟨more, rfl, hmore⟩
    · exact above_nil_cons name names
    · exact hmore.cons name

/-- What is above names is a beginning of what is left without the last of them. -/
theorem above_concat_iff {names others : List String} {last : String} :
    Above others (names ++ [last]) ↔ others <+: names := by
  constructor
  · intro h
    exact (List.prefix_concat_iff.1 h.1).resolve_left h.2
  · intro hstart
    refine ⟨hstart.trans (List.prefix_append names [last]), fun he => ?_⟩
    rw [he] at hstart
    exact absurd hstart.length_le (by simp)

/-! ## Occupants -/

/-- What occupies a place, without what is in it. -/
inductive Occupant
  | directory
  | file (content : FileContent)
deriving DecidableEq, Repr

namespace Node

/-- A node without what is in it. -/
def occupant : Node → Occupant
  | directory _ => .directory
  | file content => .file content

/-- What is at the end of names. -/
def occupant? (n : Node) (names : List String) : Option Occupant := (n.get? names).map occupant

/-- At the end of no names is the node itself. -/
@[simp] theorem occupant?_nil (n : Node) : n.occupant? [] = some n.occupant := rfl

/-- The first name leads to a child, and the others lead on from there. -/
theorem occupant?_cons (n : Node) (name : String) (names : List String) :
    n.occupant? (name :: names) = (n.child? name).bind (·.occupant? names) := by
  unfold occupant?
  rw [get?]
  cases n.child? name <;> rfl

/-- A directory is occupied by a directory. -/
theorem isDirectory_iff {n : Node} : n.isDirectory = true ↔ n.occupant = .directory := by
  cases n <;> simp [isDirectory, occupant]

/-- Whatever is put into a node, it stays what it is. -/
private theorem occupant_putChild (n : Node) (name : String) (new : Node) :
    (n.putChild name new).occupant = n.occupant := by
  cases n <;> rfl

/-- Nothing is in a file. -/
private theorem child?_of_file {n : Node} {content : FileContent} (h : n.occupant = .file content)
    (name : String) : n.child? name = none := by
  cases n with
  | file c => rfl
  | directory entries => cases h

/-- What is above something is a directory. -/
theorem directory_of_above {n : Node} {names above : List String}
    (h : n.occupant? names ≠ none) (habove : Above above names) :
    n.occupant? above = some .directory := by
  -- along the names, of which the first leads to a node with the rest at the end
  induction names generalizing n above with
  | nil => exact absurd habove (not_above_nil above)
  | cons name names ih =>
    rw [occupant?_cons] at h
    cases hchild : n.child? name with
    | none => exact absurd (by rw [hchild]; rfl) h
    | some c =>
      rw [hchild] at h
      rcases above_cons_iff.1 habove with rfl | ⟨more, rfl, hmore⟩
      · -- a file would have no child
        cases hoccupant : n.occupant with
        | directory => rw [occupant?_nil, hoccupant]
        | file content =>
          rw [child?_of_file hoccupant] at hchild
          cases hchild
      · rw [occupant?_cons, hchild]
        exact ih h hmore

/-- Where nothing was, in a directory, a node without anything in it is put without a change
    anywhere else. -/
theorem occupant?_put {n : Node} {names : List String}
    (habove : ∀ above, Above above names → n.occupant? above = some .directory)
    (hnone : n.occupant? names = none) {new : Node} (hnew : ∀ name, new.child? name = none)
    (others : List String) :
    (n.put names new).occupant? others =
      if others = names then some new.occupant else n.occupant? others := by
  -- along the names, as far as there are nodes
  induction names generalizing n others with
  | nil => cases hnone
  | cons name names ih =>
    have hdirectory : n.occupant = .directory :=
      Option.some.inj (habove [] (above_nil_cons name names))
    rw [put]
    cases others with
    | nil =>
      rw [occupant?_nil, occupant?_nil, occupant_putChild,
        if_neg (List.cons_ne_nil name names).symm]
    | cons other others =>
      rw [occupant?_cons, child?_putChild (isDirectory_iff.2 hdirectory)]
      -- beside the first name nothing changes
      by_cases hname : name = other
      · subst hname
        rw [if_pos rfl, Option.bind_some, occupant?_cons n]
        cases hchild : n.child? name with
        | none =>
          -- the names end here, as nothing is a directory below
          have hend : names = [] := by
            cases names with
            | nil => rfl
            | cons next names =>
              have := habove [name] ((above_nil_cons next names).cons name)
              rw [occupant?_cons, hchild] at this
              cases this
          subst hend
          rw [Option.getD_none, put, Option.bind_none]
          cases others with
          | nil => simp
          | cons other others => rw [occupant?_cons, hnew]; simp
        | some c =>
          -- below the first name it is the same with the rest of the names
          have hbelow := ih (n := c)
            (fun above h => by
              have := habove (name :: above) (h.cons name)
              rwa [occupant?_cons, hchild] at this)
            (by rwa [occupant?_cons, hchild] at hnone) others
          rw [Option.getD_some, hbelow, Option.bind_some]
          simp
      · rw [if_neg hname, ← occupant?_cons, if_neg fun he => hname (List.cons.inj he).1.symm]

end Node

namespace FileTree

/-- What is at the end of names below the working directory. -/
def occupant? (t : FileTree) (names : List String) : Option Occupant := t.top.occupant? names

end FileTree

end JavaFragments
