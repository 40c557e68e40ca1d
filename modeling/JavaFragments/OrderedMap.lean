/-! # Maps in insertion order

An `OrderedMap` is a list of entries with different keys.  `put` replaces the value of a
key it holds where it stands and adds a new key at the end, so the order is that of the
first insertion of each key:

* `get?_put`   the value of a key after `put`
* `keys_put`   the keys after `put`
* `get?_map`   the value of a key after a map over the values
* `map_put`    a map over the values after `put`
* `get?_modify`   the value of a key after `modify` -/

namespace JavaFragments

universe u v w

/-- Entries with different keys, in the order of their first insertion. -/
structure OrderedMap (κ : Type u) (α : Type v) where
  entries : List (κ × α)
  nodup : (entries.map Prod.fst).Nodup

namespace OrderedMap

variable {κ : Type u} {α : Type v} {β : Type w}

/-- A map is known by its entries. -/
theorem ext' {a b : OrderedMap κ α} (h : a.entries = b.entries) : a = b := by
  cases a; cases b; cases h; rfl

/-- The map without entries. -/
def empty : OrderedMap κ α := ⟨[], List.nodup_nil⟩

instance : Inhabited (OrderedMap κ α) := ⟨empty⟩

/-- The keys in their order. -/
def keys (m : OrderedMap κ α) : List κ := m.entries.map Prod.fst

/-- Whether the map has no entries. -/
def isEmpty (m : OrderedMap κ α) : Bool := m.entries.isEmpty

/-- The map with a function applied to every value. -/
def map (f : α → β) (m : OrderedMap κ α) : OrderedMap κ β where
  entries := m.entries.map fun e => (e.1, f e.2)
  nodup := by simpa [Function.comp_def] using m.nodup

/-- A map over the values leaves the keys. -/
@[simp] theorem keys_map (f : α → β) (m : OrderedMap κ α) : (m.map f).keys = m.keys := by
  simp [keys, map, Function.comp_def]

/-- A key among the later entries is none of the earlier ones. -/
theorem not_mem_keys_of_entries {m m' : OrderedMap κ α} {k : κ} {v : α} {es : List (κ × α)}
    (h : m'.entries = m.entries ++ (k, v) :: es) : k ∉ m.keys := by
  have hnodup := m'.nodup
  rw [h, List.map_append, List.map_cons] at hnodup
  intro hk
  exact (List.nodup_append.1 hnodup).2.2 k hk k List.mem_cons_self rfl

variable [DecidableEq κ]

/-- The value under `k` in a list of entries. -/
def find? (k : κ) : List (κ × α) → Option α
  | [] => none
  | e :: es => if e.1 = k then some e.2 else find? k es

/-- The entries with the value `v` under `k`. -/
def putEntry (k : κ) (v : α) : List (κ × α) → List (κ × α)
  | [] => [(k, v)]
  | e :: es => if e.1 = k then (k, v) :: es else e :: putEntry k v es

/-- The value under `k`. -/
def get? (m : OrderedMap κ α) (k : κ) : Option α := find? k m.entries

/-- Whether `k` is a key. -/
def contains (m : OrderedMap κ α) (k : κ) : Bool := (m.get? k).isSome

/-- A key that is there keeps its place, and a new one comes last. -/
private theorem keys_putEntry (k : κ) (v : α) (es : List (κ × α)) :
    (putEntry k v es).map Prod.fst =
      if k ∈ es.map Prod.fst then es.map Prod.fst else es.map Prod.fst ++ [k] := by
  induction es with
  | nil => simp [putEntry]
  | cons e es ih =>
    -- either the key is found here, or it may be among the rest
    by_cases h : e.1 = k
    · simp [putEntry, h]
    · have h' : ¬ k = e.1 := fun hk => h hk.symm
      simp only [putEntry, h, if_false, List.map_cons, ih, List.mem_cons, h', false_or]
      split <;> simp

/-- The map with the value `v` under `k`. -/
def put (m : OrderedMap κ α) (k : κ) (v : α) : OrderedMap κ α where
  entries := putEntry k v m.entries
  nodup := by
    rw [keys_putEntry]
    split
    · exact m.nodup
    · rename_i h
      exact List.nodup_append.2 ⟨m.nodup, by simp, by
        intro a ha b hb hab
        rw [List.mem_singleton.1 hb] at hab
        exact h (hab ▸ ha)⟩

/-- The map with `f` applied to the value under `k`, if there is one. -/
def modify (m : OrderedMap κ α) (k : κ) (f : α → α) : OrderedMap κ α :=
  match m.get? k with
  | some v => m.put k (f v)
  | none => m

/-- The map of a list of entries; of two values of one key the later counts. -/
def ofList (es : List (κ × α)) : OrderedMap κ α :=
  es.foldl (fun m e => m.put e.1 e.2) empty

/-- What is found under a key after a value is put. -/
theorem find?_putEntry (k k' : κ) (v : α) (es : List (κ × α)) :
    find? k' (putEntry k v es) = if k = k' then some v else find? k' es := by
  -- on the entries; the one with the key is the last that is looked at
  induction es with
  | nil => simp [putEntry, find?]
  | cons e es ih =>
    by_cases h : e.1 = k
    · by_cases hk : k = k' <;> simp [putEntry, find?, h, hk]
    · by_cases hk : e.1 = k'
      · have hne : ¬ k' = k := fun hkk => h (hk.trans hkk)
        have hne' : ¬ k = k' := fun hkk => hne hkk.symm
        simp [putEntry, find?, hk, hne, hne']
      · simp [putEntry, find?, h, hk, ih]

/-- The empty map has no keys. -/
@[simp] theorem get?_empty (k : κ) : (empty : OrderedMap κ α).get? k = none := rfl

/-- The value of a key after `put`. -/
theorem get?_put (m : OrderedMap κ α) (k k' : κ) (v : α) :
    (m.put k v).get? k' = if k = k' then some v else m.get? k' :=
  find?_putEntry k k' v m.entries

/-- Nothing is found under what is no key. -/
theorem find?_eq_none_iff (k : κ) (es : List (κ × α)) :
    find? k es = none ↔ k ∉ es.map Prod.fst := by
  induction es with
  | nil => simp [find?]
  | cons e es ih =>
    by_cases h : e.1 = k
    · simp [find?, h]
    · have h' : ¬ k = e.1 := fun hk => h hk.symm
      simp [find?, h, h', ih]

/-- Nothing is under what is no key. -/
theorem get?_eq_none_iff (m : OrderedMap κ α) (k : κ) : m.get? k = none ↔ k ∉ m.keys :=
  find?_eq_none_iff k m.entries

/-- What is found is among the entries. -/
theorem mem_of_find? {k : κ} {v : α} {es : List (κ × α)} (h : find? k es = some v) : (k, v) ∈ es := by
  induction es with
  | nil => exact nomatch h
  | cons e es ih =>
    by_cases he : e.1 = k
    · rw [find?, if_pos he] at h
      rw [← he, ← Option.some.inj h]
      exact List.mem_cons_self
    · rw [find?, if_neg he] at h
      exact List.mem_cons_of_mem _ (ih h)

/-- What is found is an entry. -/
theorem mem_entries_of_get? {m : OrderedMap κ α} {k : κ} {v : α} (h : m.get? k = some v) :
    (k, v) ∈ m.entries :=
  mem_of_find? h

/-- An entry is found under its key, since no other one has that key. -/
theorem find?_of_mem {k : κ} {v : α} {es : List (κ × α)} (hnodup : (es.map Prod.fst).Nodup)
    (h : (k, v) ∈ es) : find? k es = some v := by
  induction es with
  | nil => cases h
  | cons e es ih =>
    obtain ⟨hnot, hnodup⟩ := List.nodup_cons.1 hnodup
    rcases List.mem_cons.1 h with rfl | h
    · rw [find?, if_pos rfl]
    · have hne : e.1 ≠ k := fun he => hnot (he ▸ List.mem_map_of_mem h)
      rw [find?, if_neg hne]
      exact ih hnodup h

/-- What is under a key is its entry. -/
theorem get?_eq_some_iff {m : OrderedMap κ α} {k : κ} {v : α} :
    m.get? k = some v ↔ (k, v) ∈ m.entries :=
  ⟨mem_entries_of_get?, find?_of_mem m.nodup⟩

/-- What is no key is not contained. -/
theorem contains_eq_false {m : OrderedMap κ α} {k : κ} (h : k ∉ m.keys) : m.contains k = false := by
  rw [contains, (get?_eq_none_iff m k).2 h, Option.isSome_none]

/-- A key that is put is there, and no other one is lost. -/
theorem mem_keys_put {m : OrderedMap κ α} {k k' : κ} {v : α} :
    k' ∈ (m.put k v).keys ↔ k' = k ∨ k' ∈ m.keys := by
  simp only [keys, put, keys_putEntry]
  split
  · rename_i h
    constructor
    · exact Or.inr
    · rintro (rfl | hk)
      · exact h
      · exact hk
  · rw [List.mem_append, List.mem_singleton, or_comm]

/-- An entry after `put` is the new one or was there. -/
theorem mem_entries_put {m : OrderedMap κ α} {k : κ} {v : α} {e : κ × α}
    (h : e ∈ (m.put k v).entries) : e = (k, v) ∨ e ∈ m.entries := by
  have hget := get?_eq_some_iff.2 h
  rw [get?_put] at hget
  split at hget
  · rename_i hk
    exact .inl (Prod.ext hk.symm (Option.some.inj hget).symm)
  · exact .inr (get?_eq_some_iff.1 hget)

/-- The keys after `put`. -/
theorem keys_put (m : OrderedMap κ α) (k : κ) (v : α) :
    (m.put k v).keys = if k ∈ m.keys then m.keys else m.keys ++ [k] :=
  keys_putEntry k v m.entries

/-- The value of a key after a map over the values. -/
theorem get?_map (f : α → β) (m : OrderedMap κ α) (k : κ) :
    (m.map f).get? k = (m.get? k).map f := by
  obtain ⟨es, h⟩ := m
  simp only [get?, map]
  clear h
  -- keys stay different, but this does not matter for what is found first
  induction es with
  | nil => rfl
  | cons e es ih => by_cases h : e.1 = k <;> simp [find?, h, ih]

/-! ## Maps that are put together -/

/-- The second value takes the place of the first one. -/
private theorem putEntry_putEntry (k : κ) (a b : α) (es : List (κ × α)) :
    putEntry k b (putEntry k a es) = putEntry k b es := by
  induction es with
  | nil => simp [putEntry]
  | cons e es ih => by_cases h : e.1 = k <;> simp [putEntry, h, ih]

/-- Of two values put under one key the later counts. -/
theorem put_put (m : OrderedMap κ α) (k : κ) (a b : α) : (m.put k a).put k b = m.put k b :=
  ext' (putEntry_putEntry k a b m.entries)

/-- A value that is there already changes nothing. -/
private theorem putEntry_of_find? {k : κ} {v : α} {es : List (κ × α)} (h : find? k es = some v) :
    putEntry k v es = es := by
  induction es with
  | nil => exact nomatch h
  | cons e es ih =>
    by_cases he : e.1 = k
    · rw [find?, if_pos he] at h
      have hentry : (k, v) = e := by rw [← he, ← Option.some.inj h]
      rw [putEntry, if_pos he, hentry]
    · rw [find?, if_neg he] at h
      rw [putEntry, if_neg he, ih h]

/-- A value put where it is already changes nothing. -/
theorem put_of_get? {m : OrderedMap κ α} {k : κ} {v : α} (h : m.get? k = some v) : m.put k v = m :=
  ext' (putEntry_of_find? h)

/-- A new key comes behind the others. -/
theorem entries_put_of_not_mem {m : OrderedMap κ α} {k : κ} (h : k ∉ m.keys) (v : α) :
    (m.put k v).entries = m.entries ++ [(k, v)] := by
  obtain ⟨es, hes⟩ := m
  replace h : k ∉ es.map Prod.fst := h
  show putEntry k v es = es ++ [(k, v)]
  clear hes
  -- on the entries, none of which has the key
  induction es with
  | nil => rfl
  | cons e es ih =>
    simp only [List.map_cons, List.mem_cons, not_or] at h
    rw [putEntry, if_neg (Ne.symm h.1), ih h.2, List.cons_append]

/-- Entries with new and different keys come one behind the other. -/
theorem entries_foldl_put (m : OrderedMap κ α) {es : List (κ × α)}
    (h : (m.keys ++ es.map Prod.fst).Nodup) :
    (es.foldl (fun m e => m.put e.1 e.2) m).entries = m.entries ++ es := by
  induction es generalizing m with
  | nil => simp
  | cons e es ih =>
    -- the first of the new keys is not among the old ones
    have hnew : e.1 ∉ m.keys := fun hk =>
      (List.nodup_append.1 h).2.2 e.1 hk e.1 List.mem_cons_self rfl
    have hkeys : (m.put e.1 e.2).keys = m.keys ++ [e.1] := by rw [keys_put, if_neg hnew]
    rw [List.foldl_cons, ih, entries_put_of_not_mem hnew, List.append_assoc, List.singleton_append]
    rwa [hkeys, List.append_assoc, List.singleton_append]

/-- Entries with different keys are those of their map. -/
theorem entries_ofList {es : List (κ × α)} (h : (es.map Prod.fst).Nodup) :
    (ofList es).entries = es :=
  entries_foldl_put empty h

/-- The keys of a map of entries are those of the entries. -/
theorem mem_keys_ofList {es : List (κ × α)} {k : κ} :
    k ∈ (ofList es).keys ↔ k ∈ es.map Prod.fst := by
  -- the map that the entries are put into is arbitrary for the induction
  suffices h : ∀ m : OrderedMap κ α, k ∈ (es.foldl (fun m e => m.put e.1 e.2) m).keys ↔
      k ∈ m.keys ∨ k ∈ es.map Prod.fst by
    rw [ofList, h]
    simp [keys, empty]
  induction es with
  | nil => simp
  | cons e es ih =>
    intro m
    rw [List.foldl_cons, ih, mem_keys_put, List.map_cons, List.mem_cons, or_assoc, or_left_comm]

/-- A function is applied to an entry that is put as to the others. -/
private theorem map_putEntry (f : α → β) (k : κ) (v : α) (es : List (κ × α)) :
    (putEntry k v es).map (fun e => (e.1, f e.2)) =
      putEntry k (f v) (es.map fun e => (e.1, f e.2)) := by
  induction es with
  | nil => rfl
  | cons e es ih => by_cases h : e.1 = k <;> simp [putEntry, h, ih]

/-- A function is applied to a value that is put as to the others. -/
theorem map_put (f : α → β) (m : OrderedMap κ α) (k : κ) (v : α) :
    (m.put k v).map f = (m.map f).put k (f v) :=
  ext' (map_putEntry f k v m.entries)

/-- A function is applied to a value that is modified as to the others. -/
theorem map_modify {f : α → β} {g : α → α} {g' : β → β} (h : ∀ v, f (g v) = g' (f v))
    (m : OrderedMap κ α) (k : κ) : (m.modify k g).map f = (m.map f).modify k g' := by
  unfold modify
  rw [get?_map]
  cases m.get? k with
  | none => rfl
  | some v =>
    show (m.put k (g v)).map f = (m.map f).put k (g' (f v))
    rw [map_put, h]

/-- Modifying a value changes no key. -/
theorem keys_modify (m : OrderedMap κ α) (k : κ) (f : α → α) : (m.modify k f).keys = m.keys := by
  unfold modify
  cases hget : m.get? k with
  | none => rfl
  | some v =>
    have hmem : k ∈ m.keys := by
      apply Decidable.of_not_not
      intro h
      rw [(get?_eq_none_iff m k).2 h] at hget
      exact nomatch hget
    show (m.put k (f v)).keys = m.keys
    rw [keys_put, if_pos hmem]

/-- An entry after `modify` is the modified one or was there. -/
theorem mem_entries_modify {m : OrderedMap κ α} {k : κ} {f : α → α} {e : κ × α}
    (h : e ∈ (m.modify k f).entries) : (∃ v, (k, v) ∈ m.entries ∧ e = (k, f v)) ∨ e ∈ m.entries := by
  unfold modify at h
  cases hget : m.get? k with
  | none =>
    rw [hget] at h
    exact .inr h
  | some v =>
    rw [hget] at h
    exact (mem_entries_put h).imp_left fun he => ⟨v, mem_entries_of_get? hget, he⟩

/-- A value that is modified into itself changes nothing. -/
theorem modify_id (m : OrderedMap κ α) (k : κ) : m.modify k id = m := by
  unfold modify
  cases hget : m.get? k with
  | none => rfl
  | some v => exact put_of_get? hget

/-- The value of a key after `modify`. -/
theorem get?_modify (m : OrderedMap κ α) (k k' : κ) (f : α → α) :
    (m.modify k f).get? k' = if k = k' then (m.get? k').map f else m.get? k' := by
  unfold modify
  -- only the value under the key itself may be another one
  by_cases hk : k = k'
  · subst hk
    cases hget : m.get? k with
    | none => simp [hget]
    | some v => simp [get?_put]
  · cases hget : m.get? k with
    | none => simp [hk]
    | some v => simp [get?_put, hk]

/-- A value that was just put is modified where it stands. -/
theorem modify_put (m : OrderedMap κ α) (k : κ) (v : α) (f : α → α) :
    (m.put k v).modify k f = m.put k (f v) := by
  simp only [modify, get?_put, if_pos, put_put]

end OrderedMap

end JavaFragments
