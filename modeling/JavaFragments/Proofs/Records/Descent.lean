import JavaFragments.Proofs.Records.Ancestors

/-! # Classes below older ones

As long as a class gets its parent when it is made, the parent is older than the class, so the line
from it on goes down in age and ends.  `Descending` says so of all classes, and that nothing else
has a parent:

* `Descending.ancestors`   every class has its ancestors
* `Descending.modify`, `Descending.add`, `Descending.buildClass`   what keeps parents older -/

namespace JavaFragments.Records

open Fragment

/-- Every class has an older class for a parent, or none, and no other record has a parent. -/
structure Descending (r : Records) : Prop where
  classes : ∀ id, r.IsClass id → ∃ above, (r.get id).parent? = some (place above) ∧
    ∀ p, above = some p → r.IsClass p ∧ p.index < id.index
  others : ∀ id, ¬ r.IsClass id → (r.get id).parent? = none

/-- Records are of the same sorts and have the same parents. -/
def SameParents (r r' : Records) : Prop :=
  ∀ id, (r'.get id).sort = (r.get id).sort ∧ (r'.get id).parent? = (r.get id).parent?

/-- Records that are older stay older where only other things change. -/
theorem Descending.congr {r r' : Records} (h : r.Descending) (hsame : SameParents r r') :
    r'.Descending := by
  have hclass : ∀ id, r'.IsClass id ↔ r.IsClass id := fun id => by
    rw [IsClass, (hsame id).1, IsClass]
  constructor
  · intro id hid
    obtain ⟨above, hparent, hold⟩ := h.classes id ((hclass id).1 hid)
    refine ⟨above, (hsame id).2.trans hparent, fun p hp => ?_⟩
    exact ⟨(hclass p).2 (hold p hp).1, (hold p hp).2⟩
  · intro id hid
    rw [(hsame id).2]
    exact h.others id (mt (hclass id).2 hid)

/-! ## Lines to older classes -/

/-- The parent of a class, as it is looked up along a line. -/
theorem Descending.parentOf {r : Records} (h : r.Descending) {id : RecordId} (hid : r.IsClass id) :
    (r.get id).parent? = some (place (r.parentOf id)) ∧
      ∀ p, r.parentOf id = some p → r.IsClass p ∧ p.index < id.index := by
  -- the place for a parent tells which class it is
  obtain ⟨above, hparent, hold⟩ := h.classes id hid
  have habove : r.parentOf id = above := by
    rw [Records.parentOf, hparent]
    cases above <;> rfl
  rw [habove]
  exact ⟨hparent, hold⟩

/-- A line ends as each class on it is older than the one before. -/
theorem Descending.ends {r : Records} (h : r.Descending) {id : RecordId} (hid : r.IsClass id) :
    r.Ends (r.parentOf id) := by
  obtain ⟨n, hn⟩ : ∃ n, id.index = n := ⟨_, rfl⟩
  -- on the place of the class among all records, which goes down along the line
  induction n using Nat.strongRecOn generalizing id with
  | ind n ih =>
    cases hparent : r.parentOf id with
    | none => exact ⟨[], .here none⟩
    | some p =>
      obtain ⟨hp, hlt⟩ := (h.parentOf hid).2 p hparent
      obtain ⟨ids, hline⟩ := ih p.index (hn ▸ hlt) hp rfl
      exact ⟨p :: ids, .up hline⟩

/-- Other names change no parent. -/
private theorem sameParents_rename (r : Records) (f : RecordId → Value) :
    SameParents r (r.rename f) :=
  get_rename r f

/-- With names given back the records are what they were. -/
theorem rename_rename_nameOf (r : Records) (f : RecordId → Value) :
    (r.rename f).rename r.nameOf = r := by
  obtain ⟨all⟩ := r
  simp only [rename, Array.mapIdx_mapIdx]
  congr 1
  apply Array.ext
  · simp
  · intro i hi hi'
    simp [nameOf, get, hi']

/-- Named by texts, classes below older ones have classes for parents. -/
theorem Descending.wellParented {r : Records} (h : r.Descending)
    (hname : ∀ id, r.IsClass id → ∃ s, r.nameOf id = .str s) : r.WellParented where
  name := hname
  parent id hid := by rw [Record.parent, (h.parentOf hid).1]
  classes id p hid hp := ((h.parentOf hid).2 p hp).1

/-- Every class below older ones has its ancestors, whatever the names are. -/
theorem Descending.ancestors {r : Records} (h : r.Descending) {c : RecordId} (hc : r.IsClass c) :
    ∃ ids, r.ancestors c = .ok ids := by
  -- the names are taken away and given back
  have h' : (r.rename fun _ => .str "").Descending := h.congr (sameParents_rename r _)
  -- named by texts, the walk to the ancestors is the line of parents
  have hnamed : (r.rename fun _ => .str "").WellParented := by
    refine h'.wellParented fun id _ => ⟨"", ?_⟩
    simp only [nameOf, get, rename, Array.getD_eq_getD_getElem?, Array.getElem?_mapIdx]
    cases r.all[id.index]? <;> rfl
  have hc' : (r.rename fun _ => .str "").IsClass c := (sameParents_rename r _ c).1.trans hc
  obtain ⟨ids, hline⟩ := h'.ends hc'
  have hids := (ancestors_of_line hnamed hc' hline).1
  rw [← ancestors_rename hnamed hc' r.nameOf, rename_rename_nameOf] at hids
  exact ⟨ids, hids⟩

/-! ## What keeps parents older -/

/-- There is nothing to say of no records. -/
theorem descending_empty : empty.Descending where
  classes _ hid := nomatch hid
  others _ _ := rfl

/-- A record changes but for its sort and its parent. -/
theorem Descending.modify {r : Records} (h : r.Descending) {id : RecordId} {f : Record → Record}
    (hf : (f (r.get id)).sort = (r.get id).sort ∧ (f (r.get id)).parent? = (r.get id).parent?) :
    (r.modify id f).Descending := by
  apply h.congr
  intro other
  by_cases hother : id = other
  · subst hother
    -- there may be no record under the identifier
    rcases get_modify_cases r f id id with heq | heq
    · rw [heq]
      exact hf
    · rw [heq]
      exact ⟨rfl, rfl⟩
  · rw [get_modify_ne r f hother]
    exact ⟨rfl, rfl⟩

/-- An attribute is neither the sort nor the parent. -/
theorem Descending.assign {r : Records} (h : r.Descending) (id : RecordId) (a : Attribute)
    (v : Value) : (r.assign id a v).Descending := h.modify ⟨rfl, rfl⟩

/-- Neither is a field that is attached. -/
theorem Descending.attachField {r r' : Records} (h : r.Descending) {c id : RecordId}
    (hr : r.attachField c id = .ok r') : r'.Descending := by
  unfold Records.attachField at hr
  cases hpush : (r.get c).fields.push id with
  | error m =>
    rw [hpush] at hr
    cases hr
  | ok fields =>
    rw [hpush] at hr
    exact Except.ok.inj hr ▸ h.modify ⟨rfl, rfl⟩

/-- Neither is a method that is attached. -/
theorem Descending.attachMethod {r r' : Records} (h : r.Descending) {c id : RecordId}
    (hr : r.attachMethod c id = .ok r') : r'.Descending := by
  unfold Records.attachMethod at hr
  cases hpush : (r.get c).methods.push id with
  | error m =>
    rw [hpush] at hr
    cases hr
  | ok methods =>
    rw [hpush] at hr
    exact Except.ok.inj hr ▸ h.modify ⟨rfl, rfl⟩

/-- A new class has an older class for a parent, or none, and another new record has none. -/
theorem Descending.add {r : Records} (h : r.Descending) {d : Record}
    (hclass : d.sort = .classDecl → ∃ above, d.parent? = some (place above) ∧
      ∀ p, above = some p → r.IsClass p)
    (hother : d.sort ≠ .classDecl → d.parent? = none) : (r.add d).2.Descending := by
  have hkept : ∀ id, r.IsClass id → (r.add d).2.IsClass id := fun id hid => by
    rw [IsClass, get_add_of_lt r d hid.lt_size]
    exact hid
  constructor
  · intro id hid
    -- a record is the new one or was there
    rcases get_add_cases r d id with ⟨hlast, heq⟩ | heq
    · rw [IsClass, heq] at hid
      obtain ⟨above, hparent, habove⟩ := hclass hid
      rw [heq]
      exact ⟨above, hparent, fun p hp => ⟨hkept p (habove p hp), hlast ▸ (habove p hp).lt_size⟩⟩
    · rw [IsClass, heq] at hid
      obtain ⟨above, hparent, hold⟩ := h.classes id hid
      rw [heq]
      exact ⟨above, hparent, fun p hp => ⟨hkept p (hold p hp).1, (hold p hp).2⟩⟩
  · intro id hid
    rcases get_add_cases r d id with ⟨-, heq⟩ | heq
    · rw [IsClass, heq] at hid
      rw [heq]
      exact hother hid
    · rw [IsClass, heq] at hid
      rw [heq]
      exact h.others id hid

/-- A record that is no class has no parent. -/
theorem Descending.addOther {r : Records} (h : r.Descending) {d : Record}
    (hsort : d.sort ≠ .classDecl) (hparent : d.parent? = none) : (r.add d).2.Descending :=
  h.add (fun hclass => absurd hclass hsort) fun _ => hparent

/-- What a class is added below is a class, as nothing else has a place for a parent. -/
theorem Descending.buildClass {r : Records} (h : r.Descending) {name : Value}
    {above : Option RecordId} {methodCount fieldCount : Value} {built : RecordId × Records}
    (hbuild : buildClass r name above methodCount fieldCount = .ok built) :
    built.2.Descending := by
  unfold Fragment.buildClass at hbuild
  simp only at hbuild
  cases hwalk : r.ancestorsBelow (place above) with
  | error fault =>
    rw [hwalk] at hbuild
    cases hbuild
  | ok ids =>
    rw [hwalk] at hbuild
    obtain rfl := Except.ok.inj hbuild
    refine h.add (fun _ => ⟨above, rfl, ?_⟩) fun hsort => absurd rfl hsort
    rintro p rfl
    -- the walk has asked it for its parent
    apply Classical.byContradiction
    intro hp
    have hparent : (r.get p).parent = .error (.noPart (.record (r.get p).sort) parentKey) := by
      rw [Record.parent, h.others p hp]
    have hpassed : r.hasPassed none [] p = .ok false := rfl
    rw [ancestorsBelow, climbLimit, place, climb, hpassed, hparent] at hwalk
    cases hwalk

end JavaFragments.Records
