import JavaFragments.OrderedMap
import JavaFragments.Record.Basic
import JavaFragments.Value.Key

/-! # Registry of classes

A registry finds classes by their names; whatever else was registered is found as well.
A name that is registered again keeps its place and the value it was first given as, also
where it is now given as another value with the same key:

* `find?_enter`  what is under a key after a record was entered
* `keys_enter`   the keys after a record was entered -/

namespace JavaFragments

/-- A registered class. -/
structure Registration where
  /-- The value that the name was first given as. -/
  name : Value
  record : RecordId

/-- The registered classes by the keys of their names. -/
abbrev Registry := OrderedMap Key Registration

namespace Registry

/-- What is registered under a key. -/
def find? (r : Registry) (key : Key) : Option RecordId := (r.get? key).map (·.record)

/-- The registry with a record under the key of a name. -/
def enter (r : Registry) (name : Value) (key : Key) (id : RecordId) : Registry :=
  r.put key ⟨((r.get? key).map (·.name)).getD name, id⟩

/-- What is under a key after a record was entered. -/
theorem find?_enter (r : Registry) (name : Value) (key : Key) (id : RecordId) (key' : Key) :
    (r.enter name key id).find? key' = if key = key' then some id else r.find? key' := by
  by_cases hk : key = key'
  · subst hk
    simp [find?, enter, OrderedMap.get?_put]
  · simp [find?, enter, OrderedMap.get?_put, hk]

/-- The keys after a record was entered. -/
theorem keys_enter (r : Registry) (name : Value) (key : Key) (id : RecordId) :
    (r.enter name key id).keys = if key ∈ r.keys then r.keys else r.keys ++ [key] :=
  OrderedMap.keys_put r key _

/-- Something is found under every key. -/
theorem exists_find?_of_mem {r : Registry} {key : Key} (h : key ∈ r.keys) :
    ∃ id, r.find? key = some id := by
  cases hget : r.get? key with
  | none => exact absurd h ((OrderedMap.get?_eq_none_iff r key).1 hget)
  | some registration => exact ⟨registration.record, by rw [find?, hget]; rfl⟩

end Registry

end JavaFragments
