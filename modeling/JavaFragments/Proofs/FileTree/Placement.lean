import JavaFragments.FileTree.Creation
import JavaFragments.Proofs.FileTree.Descent
import Mathlib.Data.List.Infix

/-! # Files that are put in place

A file is put where nothing was, after the directories above it that are missing were
created.  Whatever comes of that, nothing else changes:

* `exists?_eq`, `read?_eq_some`   what is at the end of a path, within the limits
* `grown_makePath`   only directories come, where nothing was, on the way
* `makePath_ok`, `makePath_tooDeep`   within the limits they all come, or there is no room for
  them and none comes
* `store_cases`      what is in a tree after a file was put in place, or was not
* `store_ok`, `store_tooDeep`   within the limits it is put in place, or there is no room -/

namespace JavaFragments.FileTree

open JavaFragments.Path

variable {t t' t'' : FileTree} {names : List String}

/-- Nothing has changed but that there are directories, where nothing was, on the way to the
    end of names. -/
def Grown (names : List String) (t t' : FileTree) : Prop :=
  ∀ others, t'.occupant? others = t.occupant? others ∨
    (others <+: names ∧ t.occupant? others = none ∧ t'.occupant? others = some .directory)

/-- A tree that stays as it is has grown by nothing. -/
theorem Grown.refl (names : List String) (t : FileTree) : Grown names t t := fun _ => .inl rfl

/-- Growth after growth is growth. -/
theorem Grown.trans (h : Grown names t t') (h' : Grown names t' t'') : Grown names t t'' := by
  intro others
  rcases h others with hsame | hnew
  · rcases h' others with hsame' | hnew'
    · exact .inl (hsame'.trans hsame)
    · exact .inr ⟨hnew'.1, hsame ▸ hnew'.2.1, hnew'.2.2⟩
  · rcases h' others with hsame' | hnew'
    · exact .inr ⟨hnew.1, hnew.2.1, hsame'.trans hnew.2.2⟩
    · -- a directory that has come is there already
      rw [hnew.2.2] at hnew'
      cases hnew'.2.1

/-- Growth on a part of the way is growth on the way. -/
theorem Grown.mono {others : List String} (h : Grown names t t') (hstart : names <+: others) :
    Grown others t t' :=
  fun place => (h place).imp_right fun hnew => ⟨hnew.1.trans hstart, hnew.2⟩

/-- Growth leaves files as they are. -/
theorem Grown.file_iff (h : Grown names t t') (others : List String) (content : FileContent) :
    t'.occupant? others = some (.file content) ↔ t.occupant? others = some (.file content) := by
  rcases h others with hsame | ⟨-, hnone, hdirectory⟩
  · rw [hsame]
  · rw [hnone, hdirectory]
    simp

/-- Directories stay what they are. -/
theorem Grown.directory (h : Grown names t t') {others : List String}
    (hdirectory : t.occupant? others = some .directory) :
    t'.occupant? others = some .directory := by
  rcases h others with hsame | ⟨-, -, hnew⟩
  · rw [hsame, hdirectory]
  · exact hnew

/-- The tree with a node where nothing was. -/
theorem occupant?_put (hdirectories : t.HasDirectories names) (hnone : t.occupant? names = none)
    (new : Node) (hnew : ∀ name, new.child? name = none) (others : List String) :
    (t.put (t.descend [] names) new).occupant? others =
      if others = names then some new.occupant else t.occupant? others := by
  have hnames : (t.descend [] names).names = names := names_descend t [] names
  rw [put, hnames]
  exact Node.occupant?_put hdirectories hnone hnew others

/-! ## Looking -/

/-- Nothing is at the end of a path that leads to nothing, unless the names are of no use. -/
theorem occupant?_of_exists? (hdown : LeadDown names) (hne : names ≠ []) (hnull : NullFree names)
    (h : t.exists? ⟨0, names⟩ = .ok false) : t.occupant? names = none := by
  unfold exists? at h
  cases hlocate : t.locate ⟨0, names⟩ with
  | ok w =>
    obtain ⟨rfl, -⟩ := locate_eq_ok hdown hlocate
    rw [hlocate] at h
    have habsent : t.isPresent (t.descend [] names) = false := Except.ok.inj h
    by_cases hnone : t.occupant? names = none
    · exact hnone
    · rw [isPresent_descend.2 hnone] at habsent
      cases habsent
  | error o =>
    -- a name that is too long is no answer but a failure
    refine occupant?_of_locate_error hdown hne hnull hlocate ?_
    rintro rfl
    rw [hlocate] at h
    cases h

section Looking

variable (hdown : LeadDown names) (hne : names ≠ []) (hlimits : Nameable names)

include hdown hne hlimits

/-- Within the limits it is known whether there is something at the end of a path. -/
theorem exists?_eq (hopen : t.Unobstructed names) :
    t.exists? ⟨0, names⟩ = .ok (t.occupant? names).isSome := by
  unfold exists?
  -- a walk that ends before has nothing behind it
  rcases locate_cases hdown hne hlimits hopen with ⟨hlocate, -⟩ | ⟨hlocate, -⟩
  · have hpresent : t.isPresent (t.descend [] names) = (t.occupant? names).isSome := by
      rw [Bool.eq_iff_iff, isPresent_descend, Option.isSome_iff_ne_none]
    rw [hlocate, ← hpresent]
  · rw [hlocate, occupant?_of_locate_error hdown hne hlimits.nullFree hlocate nofun]
    rfl

/-- Within the limits a file at the end of a path is read. -/
theorem read?_eq_some {content : FileContent} (h : t.occupant? names = some (.file content)) :
    t.read? ⟨0, names⟩ = some content := by
  have hdirectories : t.HasDirectories names := hasDirectories_of_occupant (h ▸ nofun)
  -- what is seen from the end of the walk is the file
  have hseen : t.seen? (t.descend [] names) [] = some (.file content) := by
    rw [seen?_descend, List.append_nil]
    exact h
  obtain ⟨n, hhere, hn⟩ := Option.bind_eq_some_iff.1 hseen
  rw [read?, locate_of_hasDirectories hdown hne hlimits hdirectories]
  show (t.here (t.descend [] names)).bind _ = _
  rw [hhere]
  cases n with
  | file c =>
    cases hn
    rfl
  | directory entries => cases hn

end Looking

/-! ## Directories -/

/-- Whatever comes of the creation of a directory, at most that directory is new. -/
private theorem grown_makeDirectory (hdown : LeadDown names) {result : Except Error Unit}
    (h : t.makeDirectory ⟨0, names⟩ = (result, t')) :
    Grown names t t' ∧ (result = .ok () → t'.occupant? names = some .directory) := by
  unfold makeDirectory at h
  rw [trimmed_of_leadDown hdown] at h
  -- a path that leads nowhere, to a directory, to a file, or to nothing
  cases hlocate : t.locate ⟨0, names⟩ with
  | error o =>
    rw [hlocate] at h
    obtain ⟨rfl, rfl⟩ := Prod.mk.inj h
    exact ⟨Grown.refl names t, nofun⟩
  | ok w =>
    obtain ⟨rfl, hdirectories, -⟩ := locate_eq_ok hdown hlocate
    simp only [hlocate] at h
    split at h
    · rename_i hdirectory
      obtain ⟨rfl, rfl⟩ := Prod.mk.inj h
      exact ⟨Grown.refl names t, fun _ => isDirectory_descend.1 hdirectory⟩
    · split at h
      · obtain ⟨rfl, rfl⟩ := Prod.mk.inj h
        exact ⟨Grown.refl names t, nofun⟩
      · rename_i habsent
        obtain ⟨rfl, rfl⟩ := Prod.mk.inj h
        -- there is nothing yet, so the new directory is put there
        have hnone : t.occupant? names = none :=
          Decidable.not_not.1 fun hpresent => habsent (isPresent_descend.2 hpresent)
        have hput := occupant?_put hdirectories hnone .vacant fun _ => rfl
        refine ⟨fun others => ?_, fun _ => ?_⟩
        · rw [hput others]
          by_cases he : others = names
          · subst he
            exact .inr ⟨List.prefix_rfl, hnone, if_pos rfl⟩
          · exact .inl (if_neg he)
        · rw [hput names, if_pos rfl]
          rfl

/-- Whatever comes of the creation of several directories, only directories are new. -/
private theorem grown_makeDirectories {room : Nat} {lastFirst : List String}
    (hdown : LeadDown lastFirst.reverse) {result : Except Error Unit}
    (h : t.makeDirectories 0 room lastFirst = (result, t')) :
    Grown lastFirst.reverse t t' ∧
      (result = .ok () → lastFirst ≠ [] → t'.occupant? lastFirst.reverse = some .directory) := by
  -- each attempt grows the tree at most, and so does what is done above between two attempts
  induction lastFirst generalizing t t' room result with
  | nil =>
    rw [makeDirectories] at h
    obtain ⟨rfl, rfl⟩ := Prod.mk.inj h
    exact ⟨Grown.refl _ t, fun _ hne => absurd rfl hne⟩
  | cons step above ih =>
    have hstart : above.reverse <+: (step :: above).reverse := by
      rw [List.reverse_cons]
      exact List.prefix_append above.reverse [step]
    unfold makeDirectories at h
    dsimp only at h
    split at h
    · -- there is no room for those above
      rename_i hattempt
      obtain ⟨rfl, rfl⟩ := Prod.mk.inj h
      exact ⟨(grown_makeDirectory hdown hattempt).1, nofun⟩
    · rename_i hattempt
      have hfirst := (grown_makeDirectory hdown hattempt).1
      split at h
      · -- those above do not come either
        rename_i habove
        obtain ⟨rfl, rfl⟩ := Prod.mk.inj h
        have hsecond := (ih (hdown.of_start hstart) habove).1
        exact ⟨hfirst.trans (hsecond.mono hstart), nofun⟩
      · rename_i habove
        have hsecond := (ih (hdown.of_start hstart) habove).1
        obtain ⟨hthird, hdirectory⟩ := grown_makeDirectory hdown h
        exact ⟨(hfirst.trans (hsecond.mono hstart)).trans hthird, fun hok _ => hdirectory hok⟩
    · obtain ⟨hgrown, hdirectory⟩ := grown_makeDirectory hdown h
      exact ⟨hgrown, fun hok _ => hdirectory hok⟩

section Limits

variable (hdown : LeadDown names) (hne : names ≠ []) (hlimits : Nameable names)

include hdown hne hlimits

/-- Within the limits a directory is created where the one above it is, unless a file is in its
    place. -/
private theorem makeDirectory_ok (hdirectories : t.HasDirectories names)
    (hfile : ∀ content, t.occupant? names ≠ some (.file content)) :
    ∃ t', t.makeDirectory ⟨0, names⟩ = (.ok (), t') := by
  have hlocate := locate_of_hasDirectories hdown hne hlimits hdirectories
  unfold makeDirectory
  rw [trimmed_of_leadDown hdown]
  simp only [hlocate]
  -- a directory that is there already is no failure
  by_cases hdirectory : t.isDirectory (t.descend [] names)
  · exact ⟨t, by rw [if_pos hdirectory]⟩
  · have habsent : ¬ t.isPresent (t.descend [] names) = true := by
      intro hpresent
      obtain ⟨occupant, ho⟩ := Option.ne_none_iff_exists'.1 (isPresent_descend.1 hpresent)
      cases occupant with
      | directory => exact hdirectory (isDirectory_descend.2 ho)
      | file content => exact hfile content ho
    exact ⟨_, by rw [if_neg hdirectory, if_neg habsent]⟩

/-- No directory is created where those above it are missing. -/
private theorem makeDirectory_missing (hopen : t.Unobstructed names) {above : List String}
    (habove : Above above names) (hnone : t.occupant? above = none) :
    t.makeDirectory ⟨0, names⟩ = (.error (.missing (⟨0, names⟩ : Path).text), t) := by
  have hlocate := locate_of_missing hdown hne hlimits hopen habove hnone
  unfold makeDirectory
  rw [trimmed_of_leadDown hdown]
  simp only [hlocate]
  rfl

end Limits

/-- How many of the directories are missing that names lead through, with the last of them. -/
def missing (t : FileTree) (names : List String) : Nat :=
  names.inits.countP fun place => (t.occupant? place).isNone

/-- The last of the names counts if it is missing itself. -/
private theorem missing_concat (t : FileTree) (names : List String) (last : String) :
    t.missing (names ++ [last]) =
      t.missing names + if t.occupant? (names ++ [last]) = none then 1 else 0 := by
  have hinits : (names ++ [last]).inits = names.inits ++ [names ++ [last]] := by
    rw [List.inits_append]
    rfl
  rw [missing, hinits, List.countP_append, ← missing, List.countP_singleton]
  simp only [Option.isNone_iff_eq_none]

/-- The working directory is always there. -/
private theorem missing_nil (t : FileTree) : t.missing [] = 0 := rfl

/-- Something is missing if there is nothing at one of the places. -/
private theorem missing_pos {above : List String} (hstart : above <+: names)
    (hnone : t.occupant? above = none) : 0 < t.missing names :=
  List.countP_pos_iff.2 ⟨above, (List.mem_inits above names).2 hstart, by simp [hnone]⟩

/-- Nothing is missing above a place that can be reached. -/
private theorem missing_eq_zero {last : String} (h : t.HasDirectories (names ++ [last])) :
    t.missing names = 0 := by
  refine List.countP_eq_zero.2 fun place hplace => ?_
  rw [h place (above_concat_iff.2 ((List.mem_inits place names).1 hplace))]
  exact Bool.false_ne_true

section Several

variable {lastFirst : List String} (hdown : LeadDown lastFirst.reverse)
  (hlimits : Nameable lastFirst.reverse)
  (hopen : ∀ place, place <+: lastFirst.reverse → ∀ content,
    t.occupant? place ≠ some (.file content))

/-- Within the limits a directory comes at once, or one above it is missing, and then it is
    missing too. -/
private theorem makeDirectory_cases {above : List String} {last : String}
    (hdown : LeadDown (above ++ [last])) (hlimits : Nameable (above ++ [last]))
    (hopen : ∀ place, place <+: above ++ [last] → ∀ content,
      t.occupant? place ≠ some (.file content)) :
    (t.missing above = 0 ∧ ∃ t', t.makeDirectory ⟨0, above ++ [last]⟩ = (.ok (), t')) ∨
      (0 < t.missing above ∧ t.missing (above ++ [last]) = t.missing above + 1 ∧
        t.makeDirectory ⟨0, above ++ [last]⟩ =
          (.error (.missing (⟨0, above ++ [last]⟩ : Path).text), t)) := by
  have hunobstructed : t.Unobstructed (above ++ [last]) := fun place hplace => hopen place hplace.1
  have hne : above ++ [last] ≠ [] := List.concat_ne_nil _ _
  rcases locate_cases hdown hne hlimits hunobstructed with
    ⟨-, hdirectories⟩ | ⟨-, place, hplace, hnone⟩
  · exact .inl ⟨missing_eq_zero hdirectories,
      makeDirectory_ok hdown hne hlimits hdirectories (hopen _ List.prefix_rfl)⟩
  · have hlast : t.occupant? (above ++ [last]) = none := occupant?_eq_none hplace (hnone ▸ nofun)
    refine .inr ⟨missing_pos (above_concat_iff.1 hplace) hnone, ?_,
      makeDirectory_missing hdown hne hlimits hunobstructed hplace hnone⟩
    rw [missing_concat, if_pos hlast]

include hdown hlimits hopen

/-- Within the limits all directories come, if there is room for those that are missing. -/
theorem makeDirectories_ok {room : Nat} (hroom : t.missing lastFirst.reverse ≤ room + 1) :
    ∃ t', t.makeDirectories 0 room lastFirst = (.ok (), t') := by
  -- on the names from the last one on, as directories are attempted from below
  induction lastFirst generalizing room with
  | nil => exact ⟨t, by rw [makeDirectories]⟩
  | cons step above ih =>
    rw [List.reverse_cons] at hdown hlimits hopen hroom
    have hstart : above.reverse <+: above.reverse ++ [step] := List.prefix_append _ _
    unfold makeDirectories
    dsimp only
    rw [List.reverse_cons]
    rcases makeDirectory_cases hdown hlimits hopen with
      ⟨-, t', hattempt⟩ | ⟨hpos, hmissing, hattempt⟩
    · rw [hattempt]
      exact ⟨t', rfl⟩
    · -- what is missing above and the directory itself are two at least
      obtain ⟨less, rfl⟩ : ∃ less, room = less + 1 := ⟨room - 1, by omega⟩
      -- so there is room left for those above
      have hless : t.missing above.reverse ≤ less + 1 := by omega
      obtain ⟨t₁, hrest⟩ := ih (hdown.of_start hstart) (hlimits.of_start hstart)
        (fun place h => hopen place (h.trans hstart)) hless
      have hnonempty : above ≠ [] := by
        rintro rfl
        exact absurd (missing_nil t) hpos.ne'
      -- after which the second attempt finds all it needs
      obtain ⟨hgrown, hmade⟩ := grown_makeDirectories (hdown.of_start hstart) hrest
      have hdirectory := hmade rfl hnonempty
      have hdirectories : t₁.HasDirectories (above.reverse ++ [step]) :=
        fun place hplace => directory_of_start hdirectory (above_concat_iff.1 hplace)
      have hfile : ∀ content, t₁.occupant? (above.reverse ++ [step]) ≠ some (.file content) :=
        fun content h => hopen _ List.prefix_rfl content ((hgrown.file_iff _ content).1 h)
      obtain ⟨t₂, hlast⟩ :=
        makeDirectory_ok hdown (List.concat_ne_nil _ _) hlimits hdirectories hfile
      simp only [hattempt, hrest]
      exact ⟨t₂, hlast⟩

/-- Without room for those that are missing no directory comes. -/
theorem makeDirectories_tooDeep {room : Nat} (hroom : room + 1 < t.missing lastFirst.reverse) :
    t.makeDirectories 0 room lastFirst = (.error .tooDeep, t) := by
  -- on the names from the last one on; each call has less room and less to create
  induction lastFirst generalizing room with
  | nil =>
    rw [List.reverse_nil, missing_nil] at hroom
    exact absurd hroom (Nat.not_lt_zero _)
  | cons step above ih =>
    rw [List.reverse_cons] at hdown hlimits hopen hroom
    have hstart : above.reverse <+: above.reverse ++ [step] := List.prefix_append _ _
    unfold makeDirectories
    dsimp only
    rw [List.reverse_cons]
    rcases makeDirectory_cases hdown hlimits hopen with
      ⟨hzero, -⟩ | ⟨hpos, hmissing, hattempt⟩
    · -- one directory at most is missing, and that much room there always is
      rw [missing_concat, hzero] at hroom
      split at hroom <;> omega
    · simp only [hattempt]
      cases room with
      | zero => rfl
      | succ less =>
        -- one call further up there is one directory less to come, and less room by one
        have hless : less + 1 < t.missing above.reverse := by omega
        have hrest := ih (hdown.of_start hstart) (hlimits.of_start hstart)
          (fun place h => hopen place (h.trans hstart)) hless
        simp only [hrest]

end Several

/-- Whatever comes of the creation of a path, only directories are new. -/
theorem grown_makePath (hdown : LeadDown names) {room : Nat} {result : Except Error Unit}
    (h : t.makePath room ⟨0, names⟩ = (result, t')) :
    Grown names t t' ∧
      (result = .ok () → names ≠ [] → t'.occupant? names = some .directory) := by
  have hmake : t.makeDirectories 0 room names.reverse = (result, t') := h
  have hgrown := grown_makeDirectories (by rwa [List.reverse_reverse]) hmake
  rw [List.reverse_reverse] at hgrown
  exact ⟨hgrown.1, fun hok hne => hgrown.2 hok (mt List.reverse_eq_nil_iff.1 hne)⟩

/-- Within the limits the directories of a path come, if there is room for the missing ones. -/
theorem makePath_ok (hdown : LeadDown names) (hlimits : Nameable names)
    (hopen : ∀ place, place <+: names → ∀ content, t.occupant? place ≠ some (.file content))
    {room : Nat} (hroom : t.missing names ≤ room + 1) :
    ∃ t', t.makePath room ⟨0, names⟩ = (.ok (), t') := by
  rw [← List.reverse_reverse names] at hdown hlimits hopen hroom
  exact makeDirectories_ok hdown hlimits hopen hroom

/-- Without room for the directories that are missing none comes. -/
theorem makePath_tooDeep (hdown : LeadDown names) (hlimits : Nameable names)
    (hopen : ∀ place, place <+: names → ∀ content, t.occupant? place ≠ some (.file content))
    {room : Nat} (hroom : room + 1 < t.missing names) :
    t.makePath room ⟨0, names⟩ = (.error .tooDeep, t) := by
  rw [← List.reverse_reverse names] at hdown hlimits hopen hroom
  exact makeDirectories_tooDeep hdown hlimits hopen hroom

/-! ## Files -/

/-- A file was put in place where nothing was, with directories above it, and nothing else has
    changed. -/
structure Placed (names : List String) (content : FileContent) (t t' : FileTree) : Prop where
  vacant : t.occupant? names = none
  file : t'.occupant? names = some (.file content)
  above : ∀ place, Above place names → t'.occupant? place = some .directory
  others : ∀ place, ¬ place <+: names → t'.occupant? place = t.occupant? place

/-- The files that were there stay as they are. -/
theorem Placed.file_kept {content : FileContent} (h : Placed names content t t')
    (hopen : t.Unobstructed names) {place : List String} {kept : FileContent}
    (hplace : t.occupant? place = some (.file kept)) : t'.occupant? place = some (.file kept) := by
  -- a file that is kept stands beside the way, as there is none on it
  by_cases hstart : place <+: names
  · by_cases he : place = names
    · rw [he, h.vacant] at hplace
      cases hplace
    · exact absurd hplace (hopen place ⟨hstart, he⟩ kept)
  · rw [h.others place hstart, hplace]

/-- What is above names is a beginning of all of them but the last. -/
theorem above_iff_dropLast (hne : names ≠ []) {place : List String} :
    Above place names ↔ place <+: names.dropLast := by
  have hconcat : names.dropLast ++ [names.getLast hne] = names := List.dropLast_concat_getLast hne
  have hiff : Above place (names.dropLast ++ [names.getLast hne]) ↔ place <+: names.dropLast :=
    above_concat_iff
  rwa [hconcat] at hiff

/-- Nothing has changed at the end of names where only the way to it has grown. -/
private theorem Grown.last_eq (h : Grown names.dropLast t t') (hne : names ≠ []) :
    t'.occupant? names = t.occupant? names := by
  rcases h names with hsame | ⟨hlonger, -⟩
  · exact hsame
  · exact absurd rfl ((above_iff_dropLast hne).2 hlonger).2

/-- A file is put at the end of a path, or nothing changes. -/
private theorem putFile_cases (hdown : LeadDown names)
    (hvacant : NullFree names → t.occupant? names = none) {content : FileContent}
    {result : Except Error Unit} (h : t.putFile ⟨0, names⟩ content = (result, t')) :
    (result ≠ .ok () ∧ t' = t) ∨ (result = .ok () ∧ Placed names content t t') := by
  unfold putFile at h
  cases hlocate : t.locate ⟨0, names⟩ with
  | error o =>
    rw [hlocate] at h
    obtain ⟨rfl, rfl⟩ := Prod.mk.inj h
    exact .inl ⟨nofun, rfl⟩
  | ok w =>
    obtain ⟨rfl, hdirectories, hnull⟩ := locate_eq_ok hdown hlocate
    have hnone := hvacant hnull
    simp only [hlocate] at h
    -- a directory in its place is no place for a file
    split at h
    · obtain ⟨rfl, rfl⟩ := Prod.mk.inj h
      exact .inl ⟨nofun, rfl⟩
    · obtain ⟨rfl, rfl⟩ := Prod.mk.inj h
      have hput := occupant?_put hdirectories hnone (.file content) fun _ => rfl
      refine .inr ⟨rfl, hnone, ?_, fun place hplace => ?_, fun place hplace => ?_⟩
      · rw [hput names, if_pos rfl]
        rfl
      · rw [hput place, if_neg hplace.2, hdirectories place hplace]
      · rw [hput place, if_neg fun he : place = names => hplace (he ▸ List.prefix_rfl)]

/-- A file is put in place where nothing was, or there are only directories more. -/
theorem store_cases (hdown : LeadDown names) (hne : names ≠ [])
    (hvacant : NullFree names → t.occupant? names = none) {content : FileContent}
    {room : Nat} {result : Except Error Unit}
    (h : t.store room ⟨0, names⟩ content = (result, t')) :
    (result ≠ .ok () ∧ Grown names.dropLast t t') ∨
      (result = .ok () ∧ Placed names content t t') := by
  have hdown' : LeadDown names.dropLast := hdown.of_start (List.dropLast_prefix names)
  unfold store at h
  split at h
  · rename_i hpath
    obtain ⟨rfl, rfl⟩ := Prod.mk.inj h
    have hgrown := (grown_makePath hdown' hpath).1
    exact .inl ⟨nofun, hgrown⟩
  · rename_i t₁ hpath
    have hgrown := (grown_makePath hdown' hpath).1
    -- the directories that came are all above the file
    have hvacant' : NullFree names → t₁.occupant? names = none :=
      fun hnull => (hgrown.last_eq hne).trans (hvacant hnull)
    rcases putFile_cases hdown hvacant' h with ⟨hresult, rfl⟩ | ⟨hresult, hplaced⟩
    · exact .inl ⟨hresult, hgrown⟩
    · have hnone : t.occupant? names = none := (hgrown.last_eq hne).symm.trans hplaced.vacant
      refine .inr ⟨hresult, hnone, hplaced.file, hplaced.above, fun place hplace => ?_⟩
      rw [hplaced.others place hplace]
      rcases hgrown place with hsame | ⟨hstart, -⟩
      · exact hsame
      · exact absurd (hstart.trans (List.dropLast_prefix names)) hplace

/-- The places above the end of names are free of files where nothing obstructs the way. -/
private theorem not_file_of_dropLast (hne : names ≠ []) (hopen : t.Unobstructed names)
    {place : List String} (hplace : place <+: names.dropLast) (content : FileContent) :
    t.occupant? place ≠ some (.file content) :=
  hopen place ((above_iff_dropLast hne).2 hplace) content

/-- Within the limits a file is put in place where nothing was, if there is room for the
    directories that are missing. -/
theorem store_ok (hdown : LeadDown names) (hne : names ≠ []) (hlimits : Nameable names)
    (hopen : t.Unobstructed names) (hvacant : t.occupant? names = none)
    {room : Nat} (hroom : t.missing names.dropLast ≤ room + 1) (content : FileContent) :
    ∃ t', t.store room ⟨0, names⟩ content = (.ok (), t') := by
  have hstart : names.dropLast <+: names := List.dropLast_prefix names
  have hopen' : ∀ place, place <+: names.dropLast → ∀ content,
      t.occupant? place ≠ some (.file content) :=
    fun _ hplace => not_file_of_dropLast hne hopen hplace
  obtain ⟨t₁, hpath⟩ :=
    makePath_ok (hdown.of_start hstart) (hlimits.of_start hstart) hopen' hroom
  obtain ⟨hgrown, hmade⟩ := grown_makePath (hdown.of_start hstart) hpath
  have hlast : t₁.occupant? names.dropLast = some .directory := by
    by_cases hnil : names.dropLast = []
    · -- the file is put into the working directory, which is no file
      apply hgrown.directory
      cases htop : t.top.occupant with
      | directory => rw [hnil]; exact congrArg some htop
      | file content => exact absurd (congrArg some htop) (hopen' [] List.nil_prefix content)
    · exact hmade rfl hnil
  have hdirectories : t₁.HasDirectories names :=
    fun place hplace => directory_of_start hlast ((above_iff_dropLast hne).1 hplace)
  -- nothing stands in the place of the file, as nothing stood there before
  have hnot : ¬ t₁.isDirectory (t₁.descend [] names) = true := by
    intro hdirectory
    have hsame := hgrown.last_eq hne
    rw [isDirectory_descend.1 hdirectory, hvacant] at hsame
    cases hsame
  have hparent : t.makePath room (parent ⟨0, names⟩) = (.ok (), t₁) := hpath
  unfold store
  rw [hparent]
  unfold putFile
  simp only [locate_of_hasDirectories hdown hne hlimits hdirectories]
  exact ⟨_, by rw [if_neg hnot]⟩

/-- Without room for the directories that are missing no file comes, and nothing changes. -/
theorem store_tooDeep (hdown : LeadDown names) (hne : names ≠ []) (hlimits : Nameable names)
    (hopen : t.Unobstructed names) {room : Nat} (hroom : room + 1 < t.missing names.dropLast)
    (content : FileContent) : t.store room ⟨0, names⟩ content = (.error .tooDeep, t) := by
  have hstart : names.dropLast <+: names := List.dropLast_prefix names
  have hpath : t.makePath room (parent ⟨0, names⟩) = (.error .tooDeep, t) :=
    makePath_tooDeep (hdown.of_start hstart) (hlimits.of_start hstart)
      (fun _ hplace => not_file_of_dropLast hne hopen hplace) hroom
  unfold store
  rw [hpath]

end JavaFragments.FileTree
