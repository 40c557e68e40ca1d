import JavaFragments.Record.Ancestry

/-! # Walks end by themselves

A walk to the ancestors of a class passes no record twice and only such records as there are,
so it ends before it has made more steps than there are records:

* `not_mem_of_hasPassed`   a walk that goes on comes to a record it has not passed
* `climb_of_le`            more steps than that make no difference -/

namespace JavaFragments.Records

/-- Only a record that there is has a place for a parent. -/
theorem lt_size_of_parent {r : Records} {id : RecordId} {above : Slot}
    (h : (r.get id).parent = .ok above) : id.index < r.all.size := by
  apply Nat.lt_of_not_le
  intro hle
  rw [get_of_le hle] at h
  cases h

/-- What a walk has passed: different records that there are. -/
structure Passed (r : Records) (passed : List RecordId) : Prop where
  nodup : passed.Nodup
  lt_size : ∀ id ∈ passed, id.index < r.all.size

/-- At first a walk has passed nothing. -/
theorem Passed.nil (r : Records) : r.Passed [] := ⟨List.nodup_nil, nofun⟩

/-- It passes one record more, which it has not passed before. -/
theorem Passed.push {r : Records} {passed : List RecordId} (h : r.Passed passed) {id : RecordId}
    (hnew : id ∉ passed) (hlt : id.index < r.all.size) : r.Passed (passed ++ [id]) where
  nodup := by
    rw [List.nodup_append]
    refine ⟨h.nodup, by simp, ?_⟩
    intro a ha b hb hab
    rw [List.mem_singleton.1 hb] at hab
    exact hnew (hab ▸ ha)
  lt_size a ha := by
    rcases List.mem_append.1 ha with ha | ha
    · exact h.lt_size a ha
    · rw [List.mem_singleton.1 ha]
      exact hlt

/-- No more records are passed than there are. -/
theorem Passed.length_le {r : Records} {passed : List RecordId} (h : r.Passed passed) :
    passed.length ≤ r.all.size := by
  have hnodup : (passed.map RecordId.index).Nodup := by
    apply List.Pairwise.map _ _ h.nodup
    intro a b hab hindex
    exact hab (by cases a; cases b; exact congrArg RecordId.mk hindex)
  -- the records are told apart by where they stand
  have hsubset : passed.map RecordId.index ⊆ List.range r.all.size := by
    intro i hi
    obtain ⟨id, hid, rfl⟩ := List.mem_map.1 hi
    exact List.mem_range.2 (h.lt_size id hid)
  have hle := List.Nodup.length_le_of_subset hnodup hsubset
  rwa [List.length_map, List.length_range] at hle

/-- What is found not to be equal to any record of a list is not in the list. -/
private theorem not_mem_of_anyM {r : Records} {passed : List RecordId} {id : RecordId}
    (h : passed.anyM (r.same · id) = .ok false) : id ∉ passed := by
  -- the search has compared the record with each of the list, and with itself it is equal
  induction passed with
  | nil => exact List.not_mem_nil
  | cons a passed ih =>
    rw [List.anyM] at h
    cases hsame : r.same a id with
    | error m =>
      rw [hsame] at h
      exact nomatch h
    | ok b =>
      rw [hsame] at h
      cases b with
      | true => exact nomatch h
      | false =>
        have hne : id ≠ a := by
          rintro rfl
          rw [same_self] at hsame
          exact nomatch hsame
        rw [List.mem_cons, not_or]
        exact ⟨hne, ih h⟩

/-- A walk that goes on comes to a record that it has not passed. -/
theorem not_mem_of_hasPassed {r : Records} {self : Option RecordId} {passed : List RecordId}
    {id : RecordId} (h : r.hasPassed self passed id = .ok false) : id ∉ passed := by
  unfold hasPassed at h
  split at h
  · exact nomatch h
  · exact not_mem_of_anyM h

/-- Once there are more steps left than records that can still be passed, their number makes
    no difference. -/
theorem climb_of_le {r : Records} {self : Option RecordId} {passed : List RecordId}
    (h : r.Passed passed) {fuel fuel' : Nat} (hfuel : r.all.size < fuel + passed.length)
    (hle : fuel ≤ fuel') (what : Slot) :
    r.climb self fuel' passed what = r.climb self fuel passed what := by
  -- on the steps of the shorter climb
  induction fuel generalizing fuel' passed what with
  | zero =>
    -- more records would have been passed than there are
    have hlength := h.length_le
    omega
  | succ fuel ih =>
    obtain ⟨more, rfl⟩ : ∃ more, fuel' = more + 1 := ⟨fuel' - 1, by omega⟩
    cases what with
    | value v => cases v <;> rfl
    | record id =>
      rw [climb, climb]
      cases hpassed : r.hasPassed self passed id with
      | error m => rfl
      | ok b =>
        cases b with
        | true => rfl
        | false =>
          cases hparent : (r.get id).parent with
          | error m => rfl
          | ok above =>
            -- the record that the walk has come to is one more that it has passed
            have hpush : r.Passed (passed ++ [id]) :=
              h.push (not_mem_of_hasPassed hpassed) (lt_size_of_parent hparent)
            have hlength : (passed ++ [id]).length = passed.length + 1 := by simp
            exact ih hpush (by omega) (by omega) above

end JavaFragments.Records
