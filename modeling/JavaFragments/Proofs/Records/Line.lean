import JavaFragments.Proofs.Records.Walk

/-! # Lines of ancestors

A `Line` goes up from a place by the parents of classes and passes each class on the way; it
ends where there is no parent.  Where classes have classes for parents, the walk to the
ancestors of a class climbs such a line:

* `Line.unique`, `Line.nodup`   a line that ends passes no class twice
* `climb_line`                  a line that ends is climbed to its end
* `climb_cases`                 a climb stops at the end of a line, or where it comes round -/

namespace JavaFragments.Records

/-- A record is a class. -/
def IsClass (r : Records) (id : RecordId) : Prop := (r.get id).sort = .classDecl

/-- A class is a record that there is. -/
theorem IsClass.lt_size {r : Records} {id : RecordId} (h : r.IsClass id) :
    id.index < r.all.size := by
  apply Nat.lt_of_not_le
  intro hle
  rw [IsClass, get_of_le hle] at h
  cases h

/-- The parent of a class, if it has one. -/
def parentOf (r : Records) (id : RecordId) : Option RecordId :=
  match (r.get id).parent? with
  | some (.record p) => some p
  | _ => none

/-- Every class is named by a text and has a class for a parent, or none.  Parents may form
    cycles of any kind. -/
structure WellParented (r : Records) : Prop where
  name : ∀ id, r.IsClass id → ∃ s, r.nameOf id = .str s
  parent : ∀ id, r.IsClass id → (r.get id).parent = .ok (place (r.parentOf id))
  classes : ∀ id p, r.IsClass id → r.parentOf id = some p → r.IsClass p

/-- From a place up to another one, with the classes that are passed. -/
inductive Line (r : Records) : Option RecordId → List RecordId → Option RecordId → Prop
  | here (p : Option RecordId) : Line r p [] p
  | up {id : RecordId} {ids : List RecordId} {q : Option RecordId} :
      Line r (r.parentOf id) ids q → Line r (some id) (id :: ids) q

/-- The line from a place on ends. -/
def Ends (r : Records) (p : Option RecordId) : Prop := ∃ ids, r.Line p ids none

/-! ## Lines that end -/

/-- There is one way to the end of a line. -/
theorem Line.unique {r : Records} {p : Option RecordId} {ids ids' : List RecordId}
    (h : r.Line p ids none) (h' : r.Line p ids' none) : ids = ids' := by
  -- on the first line; each class has one parent
  generalize hq : (none : Option RecordId) = q at h
  induction h generalizing ids' with
  | here p =>
    subst hq
    cases h'
    rfl
  | up _ ih =>
    cases h' with
    | up h' => rw [ih h' hq]

/-- From a class that is passed the line goes on to its end. -/
private theorem Line.from_mem {r : Records} {p q : Option RecordId} {ids : List RecordId}
    (h : r.Line p ids q) {id : RecordId} (hid : id ∈ ids) :
    ∃ rest, r.Line (some id) (id :: rest) q ∧ rest.length < ids.length := by
  -- on the line
  induction h with
  | here p => exact absurd hid List.not_mem_nil
  | @up a ids q hline ih =>
    rcases List.mem_cons.1 hid with rfl | hid
    · exact ⟨ids, .up hline, Nat.lt_succ_self _⟩
    · obtain ⟨rest, hrest, hlt⟩ := ih hid
      exact ⟨rest, hrest, Nat.lt_succ_of_lt hlt⟩

/-- A line that ends passes no class twice. -/
theorem Line.nodup {r : Records} {p : Option RecordId} {ids : List RecordId}
    (h : r.Line p ids none) : ids.Nodup := by
  generalize hq : (none : Option RecordId) = q at h
  induction h with
  | here p => exact List.nodup_nil
  | @up id ids q hline ih =>
    subst hq
    refine List.nodup_cons.2 ⟨fun hid => ?_, ih rfl⟩
    -- the rest of the line would be shorter than itself
    obtain ⟨rest, hrest, hlt⟩ := hline.from_mem hid
    obtain rfl := List.tail_eq_of_cons_eq (hrest.unique (.up hline))
    exact Nat.lt_irrefl _ hlt

/-! ## Climbing -/

/-- What is passed are classes, so a walk has passed a class only if it is one of them. -/
theorem hasPassed_of_classes {r : Records} {passed : List RecordId}
    (h : ∀ a ∈ passed, r.IsClass a) (self : Option RecordId) (id : RecordId) :
    r.hasPassed self passed id = .ok (decide (self = some id ∨ id ∈ passed)) := by
  -- classes are equal only if they are the same
  have hany : passed.anyM (r.same · id) = .ok (decide (id ∈ passed)) := by
    induction passed with
    | nil => rfl
    | cons a passed ih =>
      have hsame : r.same a id = .ok (decide (a = id)) :=
        same_of_class r (h a List.mem_cons_self)
      rw [List.anyM, hsame]
      by_cases ha : a = id
      · simp [ha, bind, Except.bind, pure, Except.pure]
      · simp [ha, Ne.symm ha, ih fun b hb => h b (List.mem_cons_of_mem a hb), bind, Except.bind]
  unfold hasPassed
  by_cases hself : self = some id
  · simp [hself]
  · simp [hself, hany]

/-- A line that ends is climbed to its end, if nothing on it was passed before. -/
theorem climb_line {r : Records} (h : r.WellParented) {self : Option RecordId}
    {p : Option RecordId} {ids : List RecordId} (hline : r.Line p ids none)
    (hp : ∀ id, p = some id → r.IsClass id) {passed : List RecordId}
    (hpassed : ∀ a ∈ passed, r.IsClass a) (hnew : ∀ id ∈ ids, self ≠ some id ∧ id ∉ passed)
    {fuel : Nat} (hfuel : ids.length ≤ fuel) :
    r.climb self fuel passed (place p) = .ok (passed ++ ids) := by
  -- on the line, one step of the climb for each class of it
  generalize hq : (none : Option RecordId) = q at hline
  induction hline generalizing passed fuel with
  | here p =>
    subst hq
    rw [List.append_nil]
    cases fuel <;> rfl
  | @up id ids q hline ih =>
    subst hq
    obtain ⟨fuel, rfl⟩ : ∃ more, fuel = more + 1 :=
      ⟨fuel - 1, by simp only [List.length_cons] at hfuel; omega⟩
    have hid : r.IsClass id := hp id rfl
    have hne := hnew id List.mem_cons_self
    have hnotPassed : r.hasPassed self passed id = .ok false := by
      rw [hasPassed_of_classes hpassed]
      simp [hne.1, hne.2]
    -- no class comes twice, so the rest of the line is new also behind this one
    have hnodup : (id :: ids).Nodup := (Line.up hline).nodup
    have hrest : ∀ a ∈ ids, self ≠ some a ∧ a ∉ passed ++ [id] := by
      intro a ha
      obtain ⟨hself, hnot⟩ := hnew a (List.mem_cons_of_mem id ha)
      have haid : a ≠ id := fun e => (List.nodup_cons.1 hnodup).1 (e ▸ ha)
      exact ⟨hself, by simp [hnot, haid]⟩
    have hpush : ∀ a ∈ passed ++ [id], r.IsClass a := by
      intro a ha
      rcases List.mem_append.1 ha with ha | ha
      · exact hpassed a ha
      · exact List.mem_singleton.1 ha ▸ hid
    show r.climb self (fuel + 1) passed (.record id) = _
    rw [climb, hnotPassed, h.parent id hid]
    simp only
    rw [ih (fun q hq => h.classes id q hid hq) hpush hrest
      (by simp only [List.length_cons] at hfuel; omega) rfl, List.append_assoc,
      List.singleton_append]

/-- A climb stops at the end of a line, or at the first class that it has passed already. -/
theorem climb_cases {r : Records} (h : r.WellParented) {self : Option RecordId} {fuel : Nat}
    {p : Option RecordId} (hp : ∀ id, p = some id → r.IsClass id) {passed : List RecordId}
    (hpassed : ∀ a ∈ passed, r.IsClass a ∧ self ≠ some a) (hall : r.Passed passed)
    (hfuel : r.all.size < fuel + passed.length) :
    (∃ ids, r.climb self fuel passed (place p) = .ok (passed ++ ids) ∧ r.Line p ids none) ∨
      ∃ ids t, r.climb self fuel passed (place p) = .error (.cycle t) ∧ r.IsClass t ∧
        r.Line p ids (some t) ∧ (passed ++ ids).Nodup ∧ (∀ a ∈ ids, self ≠ some a) ∧
        (self = some t ∨ t ∈ passed ++ ids) := by
  -- on the steps that are left, of which there are more than classes that can be passed
  induction fuel generalizing p passed with
  | zero =>
    have := hall.length_le
    omega
  | succ fuel ih =>
    cases p with
    | none => exact Or.inl ⟨[], by rw [List.append_nil]; rfl, .here none⟩
    | some id =>
      have hid : r.IsClass id := hp id rfl
      have hpassed' : r.hasPassed self passed id = .ok (decide (self = some id ∨ id ∈ passed)) :=
        hasPassed_of_classes (fun a ha => (hpassed a ha).1) self id
      by_cases hround : self = some id ∨ id ∈ passed
      · -- the climb has come round
        refine Or.inr ⟨[], id, ?_, hid, .here _, by simpa using hall.nodup, nofun, by simpa using hround⟩
        show r.climb self (fuel + 1) passed (.record id) = _
        rw [climb, hpassed', decide_eq_true hround]
      · -- it goes on to the parent, having passed one class more
        have hstep : r.climb self (fuel + 1) passed (place (some id)) =
            r.climb self fuel (passed ++ [id]) (place (r.parentOf id)) := by
          show r.climb self (fuel + 1) passed (.record id) = _
          rw [climb, hpassed', decide_eq_false hround, h.parent id hid]
        rw [not_or] at hround
        have hpush : ∀ a ∈ passed ++ [id], r.IsClass a ∧ self ≠ some a := by
          intro a ha
          rcases List.mem_append.1 ha with ha | ha
          · exact hpassed a ha
          · obtain rfl := List.mem_singleton.1 ha
            exact ⟨hid, hround.1⟩
        have hall' : r.Passed (passed ++ [id]) :=
          hall.push hround.2 (lt_size_of_parent (h.parent id hid))
        have hfuel' : r.all.size < fuel + (passed ++ [id]).length := by
          rw [List.length_append, List.length_singleton]
          omega
        rw [hstep]
        rcases ih (fun q hq => h.classes id q hid hq) hpush hall' hfuel' with
          ⟨ids, hclimb, hline⟩ | ⟨ids, t, hclimb, ht, hline, hnodup, hself, hmem⟩
        · exact Or.inl ⟨id :: ids, by rw [hclimb, List.append_assoc]; rfl, .up hline⟩
        · rw [List.append_assoc, List.singleton_append] at hnodup hmem
          refine Or.inr ⟨id :: ids, t, hclimb, ht, .up hline, hnodup, ?_, hmem⟩
          intro a ha
          rcases List.mem_cons.1 ha with rfl | ha
          · exact hround.1
          · exact hself a ha

end JavaFragments.Records
