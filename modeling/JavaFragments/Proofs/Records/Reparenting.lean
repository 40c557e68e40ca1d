import JavaFragments.Proofs.Records.Ancestors

/-! # Another parent for a class

A class gets another parent in one place of the heap, but every line that passes it changes its
course there.  A line is split at that class: up to it nothing changes, and from there on it is the
line of the new parent, which comes round if the class was above that parent already:

* `Line.append`, `Line.split`   lines in parts
* `comesRound_iff`        a walk comes round exactly if the line does not end
* `ancestors_setParent_self`   the class itself
* `ancestors_setParent_below`  the classes that have it for an ancestor -/

namespace JavaFragments.Records

open Fragment

/-! ## Lines in parts -/

/-- Lines are put together where one ends and the other starts. -/
theorem Line.append {r : Records} {p q t : Option RecordId} {ids ids' : List RecordId}
    (h : r.Line p ids q) (h' : r.Line q ids' t) : r.Line p (ids ++ ids') t := by
  -- along the first line
  induction h with
  | here p => exact h'
  | up _ ih => exact .up (ih h')

/-- What is left of a line that ends, behind a part of it. -/
private theorem Line.exists_rest {r : Records} {p q : Option RecordId} {ids all : List RecordId}
    (h : r.Line p ids q) (hall : r.Line p all none) :
    ∃ rest, all = ids ++ rest ∧ r.Line q rest none := by
  induction h generalizing all with
  | here p => exact ⟨all, rfl, hall⟩
  | up _ ih =>
    cases hall with
    | up hall =>
      obtain ⟨rest, rfl, hrest⟩ := ih hall
      exact ⟨rest, rfl, hrest⟩

/-- A line that passes a class goes up to it and on from its parent. -/
theorem Line.split {r : Records} {p q : Option RecordId} {front rest : List RecordId}
    {c : RecordId} (h : r.Line p (front ++ c :: rest) q) :
    r.Line p front (some c) ∧ r.Line (r.parentOf c) rest q := by
  induction front generalizing p with
  | nil =>
    cases h with
    | up h => exact ⟨.here _, h⟩
  | cons id front ih =>
    cases h with
    | up h => exact ⟨.up (ih h).1, (ih h).2⟩

/-- A line that ends has not passed a class before it comes to it. -/
private theorem Line.not_mem_front {r : Records} {p : Option RecordId} {front rest : List RecordId}
    {c : RecordId} (h : r.Line p (front ++ c :: rest) none) : c ∉ front :=
  fun hmem => (List.nodup_append.1 h.nodup).2.2 c hmem c List.mem_cons_self rfl

/-! ## Walks that come round -/

/-- A class is refused its ancestors as one of them itself. -/
def ComesRound (r : Records) (c : RecordId) : Prop :=
  ∃ name through, ancestorNames r c = .error (.ownAncestor name through)

/-- A walk comes round exactly if the line from the parent on does not end. -/
theorem comesRound_iff {r : Records} (h : r.WellParented) {c : RecordId} (hc : r.IsClass c) :
    r.ComesRound c ↔ ¬ r.Ends (r.parentOf c) := by
  constructor
  · rintro ⟨name, through, hnames⟩ ⟨ids, hline⟩
    rw [ancestorNames, (ancestors_of_line h hc hline).1] at hnames
    cases hnames
  · intro hends
    rcases ancestors_cases h hc with ⟨ids, -, hline⟩ | ⟨ids, t, hcycle, ht, -⟩
    · exact absurd ⟨ids, hline⟩ hends
    · obtain ⟨name, hname⟩ := h.name c hc
      obtain ⟨through, -, hfailure⟩ := lineFailure_cycle h name ht
      refine ⟨name, through, ?_⟩
      rw [ancestorNames, hcycle, hname]
      exact congrArg Except.error hfailure

/-- The ancestors that a class has are the line from its parent on. -/
private theorem line_of_ancestors {r : Records} (h : r.WellParented) {c : RecordId}
    (hc : r.IsClass c)
    {ids : List RecordId} (hids : r.ancestors c = .ok ids) : r.Line (r.parentOf c) ids none := by
  rcases ancestors_cases h hc with ⟨ids', hids', hline⟩ | ⟨_, t, hcycle, -⟩
  · rw [hids'] at hids
    exact Except.ok.inj hids ▸ hline
  · rw [hcycle] at hids
    exact nomatch hids

/-! ## The records with another parent -/

section SetParent

variable {r : Records} {c : RecordId} (above : Option RecordId)

/-- The class itself has the new parent and is the same otherwise. -/
private theorem get_setParent_self (h : r.WellParented) (hc : r.IsClass c) :
    (r.setParent c above).get c = { r.get c with parent? := some (place above) } :=
  get_modify_self r _ (lt_size_of_parent (h.parent c hc))

/-- Other records stay as they are. -/
private theorem get_setParent_ne {id : RecordId} (hid : id ≠ c) :
    (r.setParent c above).get id = r.get id := get_modify_ne r _ (Ne.symm hid)

/-- The class has the new parent. -/
theorem parentOf_setParent_self (h : r.WellParented) (hc : r.IsClass c) :
    (r.setParent c above).parentOf c = above := by
  rw [parentOf, get_setParent_self above h hc]
  cases above <;> rfl

/-- Other classes keep theirs. -/
theorem parentOf_setParent_ne {id : RecordId} (hid : id ≠ c) :
    (r.setParent c above).parentOf id = r.parentOf id := by
  rw [parentOf, get_setParent_ne above hid, parentOf]

/-- No record becomes a class or ceases to be one. -/
theorem isClass_setParent_iff (h : r.WellParented) (hc : r.IsClass c) {id : RecordId} :
    (r.setParent c above).IsClass id ↔ r.IsClass id := by
  by_cases hid : id = c
  · subst hid
    rw [IsClass, get_setParent_self above h hc, IsClass]
  · rw [IsClass, get_setParent_ne above hid, IsClass]

/-- With a class for the new parent, or none, classes still have classes for parents. -/
theorem wellParented_setParent (h : r.WellParented) (hc : r.IsClass c)
    (hp : ∀ p, above = some p → r.IsClass p) : (r.setParent c above).WellParented where
  name id hid := by
    rw [isClass_setParent_iff above h hc] at hid
    by_cases hne : id = c
    · subst hne
      rw [nameOf, get_setParent_self above h hid]
      exact h.name id hid
    · rw [nameOf, get_setParent_ne above hne]
      exact h.name id hid
  parent id hid := by
    rw [isClass_setParent_iff above h hc] at hid
    by_cases hne : id = c
    · subst hne
      rw [parentOf_setParent_self above h hid, get_setParent_self above h hid]
      rfl
    · rw [parentOf_setParent_ne above hne, get_setParent_ne above hne]
      exact h.parent id hid
  classes id p hid hparent := by
    rw [isClass_setParent_iff above h hc] at hid ⊢
    by_cases hne : id = c
    · subst hne
      rw [parentOf_setParent_self above h hid] at hparent
      exact hp p hparent
    · rw [parentOf_setParent_ne above hne] at hparent
      exact h.classes id p hid hparent

/-- A line that does not pass the class stays as it is. -/
theorem Line.setParent {p q : Option RecordId} {ids : List RecordId} (hline : r.Line p ids q)
    (hc : c ∉ ids) : (r.setParent c above).Line p ids q := by
  -- along the line, none of whose classes has another parent
  induction hline with
  | here p => exact .here p
  | @up id ids q hline ih =>
    rw [List.mem_cons, not_or] at hc
    refine .up ?_
    rw [parentOf_setParent_ne above (Ne.symm hc.1)]
    exact ih hc.2

/-- The line from the new parent on comes back to the class if it passed it before, and ends as
    before if it did not. -/
theorem ends_setParent_iff (h : r.WellParented) (hc : r.IsClass c) {ids : List RecordId}
    (hline : r.Line above ids none) : (r.setParent c above).Ends above ↔ c ∉ ids := by
  constructor
  · rintro ⟨all, hall⟩ hmem
    obtain ⟨front, _, rfl⟩ := List.append_of_mem hmem
    have hfirst := hline.split.1.setParent above hline.not_mem_front
    -- from the class on the line would be as long as the whole
    obtain ⟨rest, rfl, hrest⟩ := hfirst.exists_rest hall
    cases hrest with
    | up hrest =>
      rw [parentOf_setParent_self above h hc] at hrest
      have hlen := congrArg List.length (hrest.unique hall)
      simp only [List.length_append, List.length_cons] at hlen
      omega
  · exact fun hmem => ⟨ids, hline.setParent above hmem⟩

end SetParent

/-! ## Ancestors after another parent was set -/

/-- The class has the new parent and its ancestors, unless it is one of them itself. -/
theorem ancestors_setParent_self {r : Records} (h : r.WellParented) {c p : RecordId}
    (hc : r.IsClass c) (hp : r.IsClass p) {above : List RecordId}
    (habove : r.ancestors p = .ok above) :
    ((r.setParent c (some p)).ComesRound c ↔ p = c ∨ c ∈ above) ∧
      (¬ (p = c ∨ c ∈ above) → (r.setParent c (some p)).ancestors c = .ok (p :: above)) := by
  have hline : r.Line (some p) (p :: above) none := .up (line_of_ancestors h hp habove)
  have hmem : c ∈ p :: above ↔ p = c ∨ c ∈ above := by rw [List.mem_cons, eq_comm]
  have h' := wellParented_setParent (some p) h hc fun q hq => Option.some.inj hq ▸ hp
  have hc' := (isClass_setParent_iff (some p) h hc).2 hc
  constructor
  · rw [comesRound_iff h' hc', parentOf_setParent_self (some p) h hc,
      ends_setParent_iff (some p) h hc hline, hmem, Decidable.not_not]
  · intro hnot
    refine (ancestors_of_line h' hc' ?_).1
    rw [parentOf_setParent_self (some p) h hc]
    exact hline.setParent (some p) (mt hmem.1 hnot)

/-- Another class keeps its ancestors up to the one with the new parent, and has those of it
    behind. -/
theorem ancestors_setParent_below {r : Records} (h : r.WellParented) {c p d : RecordId}
    (hc : r.IsClass c) (hp : r.IsClass p) (hd : r.IsClass d) (hdc : d ≠ c) {old : List RecordId}
    (hold : r.ancestors d = .ok old) :
    (c ∉ old → (r.setParent c (some p)).ancestors d = .ok old) ∧
      ∀ front rest, old = front ++ c :: rest →
        (∀ new, (r.setParent c (some p)).ancestors c = .ok new →
          (r.setParent c (some p)).ancestors d = .ok (front ++ c :: new)) ∧
        ((r.setParent c (some p)).ComesRound c → (r.setParent c (some p)).ComesRound d) := by
  have hline := line_of_ancestors h hd hold
  have h' := wellParented_setParent (some p) h hc fun q hq => Option.some.inj hq ▸ hp
  have hc' := (isClass_setParent_iff (some p) h hc).2 hc
  have hd' := (isClass_setParent_iff (some p) h hc).2 hd
  have hparent := parentOf_setParent_ne (r := r) (some p) hdc
  constructor
  · intro hmem
    refine (ancestors_of_line h' hd' ?_).1
    rw [hparent]
    exact hline.setParent (some p) hmem
  · rintro front rest rfl
    -- up to the class nothing changes
    have hfirst := hline.split.1.setParent (some p) hline.not_mem_front
    constructor
    · intro new hnew
      refine (ancestors_of_line h' hd' ?_).1
      rw [hparent]
      exact hfirst.append (.up (line_of_ancestors h' hc' hnew))
    · rw [comesRound_iff h' hc', comesRound_iff h' hd', hparent]
      rintro hends ⟨all, hall⟩
      obtain ⟨rest', -, hrest⟩ := hfirst.exists_rest hall
      cases hrest with
      | up hrest => exact hends ⟨_, hrest⟩

end JavaFragments.Records
