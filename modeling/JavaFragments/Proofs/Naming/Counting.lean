import JavaFragments.Proofs.Naming.IssuedName

/-! # Classes that count their members

A class that is well-formed for naming has a text as its name and integers as the numbers of
its next members (`Counts`).  Whatever a session does with records, such a class keeps its
name and its numbers do not become smaller (`Raises`):

* `raises_add`, `raises_setParent`   a new record or another parent changes no number
* `raises_assign`                    a number that becomes larger
* `result_takeOver`                  one class takes over a number of another -/

namespace JavaFragments.Session

open Fragment

/-- The record is a class with a text as its name and integers as its next numbers. -/
structure Counts (d : Record) (name : String) (count : MemberSort → Int) : Prop where
  sort : d.sort = .classDecl
  name : d.name = .str name
  count : ∀ s, d.get s.counter = .ok (.int (count s))

/-- Every record is a class that counts its members, or has no number of its next method. -/
def Typed (r : Records) : Prop :=
  ∀ id, (∃ name count, Counts (r.get id) name count) ∨ ∃ m, (r.get id).get .methodCount = .error m

/-- Classes keep their names, and no number becomes smaller. -/
def Raises (r r' : Records) : Prop :=
  ∀ id name count, Counts (r.get id) name count →
    ∃ count', Counts (r'.get id) name count' ∧ ∀ s, count s ≤ count' s

/-- A new class counts its members from the given numbers on. -/
theorem counts_ofClass (name : String) (parent : Slot) (count : MemberSort → Int) :
    Counts (.ofClass (.str name) parent (.int (count .method)) (.int (count .field))) name count where
  sort := rfl
  name := rfl
  count s := by cases s <;> rfl

/-- A class counts in one way only. -/
theorem Counts.unique {d : Record} {m n : String} {f g : MemberSort → Int} (h : Counts d m f)
    (h' : Counts d n g) : m = n ∧ f = g := by
  constructor
  · exact Value.str.inj (h.name.symm.trans h'.name)
  · funext s
    exact Value.int.inj (Except.ok.inj ((h.count s).symm.trans (h'.count s)))

/-- A class is a record that there is. -/
theorem Counts.lt_size {r : Records} {id : RecordId} {name : String} {count : MemberSort → Int}
    (h : Counts (r.get id) name count) : id.index < r.all.size := by
  apply Nat.lt_of_not_le
  intro hle
  -- beyond the records a variable is found, which is no class
  have hsort := h.sort
  rw [Records.get_of_le hle] at hsort
  cases hsort

/-- Nothing is counted down where nothing is done. -/
theorem Raises.refl (r : Records) : Raises r r :=
  fun _ _ count h => ⟨count, h, fun _ => Int.le_refl _⟩

/-- Numbers that do not become smaller do not become smaller in the long run. -/
theorem Raises.trans {a b c : Records} (hab : Raises a b) (hbc : Raises b c) : Raises a c := by
  intro id name count h
  obtain ⟨count', h', hle⟩ := hab id name count h
  obtain ⟨count'', h'', hle'⟩ := hbc id name count' h'
  exact ⟨count'', h'', fun s => Int.le_trans (hle s) (hle' s)⟩

/-! ## New records and other parents -/

/-- A new record changes no number. -/
theorem raises_add (r : Records) (d : Record) : Raises r (r.add d).2 := by
  intro id name count h
  refine ⟨count, ?_, fun _ => Int.le_refl _⟩
  -- the class was there before
  rw [Records.get_add_of_lt r d h.lt_size]
  exact h

/-- A new class counts, as all others do. -/
theorem typed_add {r : Records} {d : Record} {name : String} {count : MemberSort → Int}
    (h : Typed r) (hd : Counts d name count) : Typed (r.add d).2 := by
  intro id
  rcases Records.get_add_cases r d id with ⟨-, e⟩ | e
  · rw [e]
    exact Or.inl ⟨name, count, hd⟩
  · rw [e]
    exact h id

/-- A class counts in the same way below another parent. -/
private theorem counts_parent_iff (d : Record) (parent? : Option Slot) (name : String)
    (count : MemberSort → Int) : Counts { d with parent? } name count ↔ Counts d name count :=
  ⟨fun h => ⟨h.sort, h.name, h.count⟩, fun h => ⟨h.sort, h.name, h.count⟩⟩

/-- Another parent changes no number. -/
theorem raises_setParent (r : Records) (id : RecordId) (parent? : Option RecordId) :
    Raises r (r.setParent id parent?) := by
  intro other name count h
  refine ⟨count, ?_, fun _ => Int.le_refl _⟩
  rcases Records.get_modify_cases r _ id other with e | e
  · rw [Records.setParent, e]
    exact (counts_parent_iff ..).2 h
  · rw [Records.setParent, e]
    exact h

/-- Another parent does not make numbers other than integers. -/
theorem typed_setParent {r : Records} (h : Typed r) (id : RecordId) (parent? : Option RecordId) :
    Typed (r.setParent id parent?) := by
  intro other
  rcases Records.get_modify_cases r (fun d => { d with parent? := some (Records.place parent?) }) id other
    with e | e
  · rw [Records.setParent, e]
    -- the parent is not among the attributes
    rcases h other with ⟨name, count, hcounts⟩ | ⟨m, hm⟩
    · exact Or.inl ⟨name, count, (counts_parent_iff ..).2 hcounts⟩
    · exact Or.inr ⟨m, hm⟩
  · rw [Records.setParent, e]
    exact h other

/-! ## Numbers that become larger -/

/-- The numbers with another one for the members of a sort. -/
def setCount (count : MemberSort → Int) (s : MemberSort) (n : Int) : MemberSort → Int :=
  fun t => if t = s then n else count t

/-- Methods and fields are counted apart. -/
theorem counter_inj {s t : MemberSort} (h : s.counter = t.counter) : s = t := by
  cases s <;> cases t <;> first | rfl | exact nomatch h

/-- A class after a number was assigned to it. -/
private theorem counts_set {d : Record} {name : String} {count : MemberSort → Int}
    (h : Counts d name count)
    (s : MemberSort) (n : Int) : Counts (d.set s.counter (.int n)) name (setCount count s n) where
  sort := h.sort
  name := h.name
  count t := by
    rw [Record.get_set, setCount]
    by_cases e : t = s
    · rw [if_pos (congrArg _ e.symm), if_pos e]
    · rw [if_neg fun e' => e (counter_inj e').symm, if_neg e]
      exact h.count t

/-- The class counts from the new number on. -/
theorem counts_assign {r : Records} {id : RecordId} {name : String} {count : MemberSort → Int}
    (h : Counts (r.get id) name count) (s : MemberSort) (n : Int) :
    Counts ((r.assign id s.counter (.int n)).get id) name (setCount count s n) := by
  rw [Records.assign, Records.get_modify_self r _ h.lt_size]
  exact counts_set h s n

/-- A number that becomes larger. -/
theorem raises_assign {r : Records} {id : RecordId} {name : String} {count : MemberSort → Int}
    (h : Counts (r.get id) name count) {s : MemberSort} {n : Int} (hn : count s ≤ n) :
    Raises r (r.assign id s.counter (.int n)) := by
  intro other name' count' h'
  by_cases e : id = other
  · subst e
    -- the class counts in one way, so the number that is replaced is the one in `h`
    obtain ⟨rfl, rfl⟩ := h.unique h'
    refine ⟨_, counts_assign h s n, fun t => ?_⟩
    unfold setCount
    split
    · rename_i e
      exact e ▸ hn
    · exact Int.le_refl _
  · rw [Records.get_assign_ne r e]
    exact ⟨count', h', fun _ => Int.le_refl _⟩

/-- A number that is assigned is an integer. -/
theorem typed_assign {r : Records} (ht : Typed r) {id : RecordId} {name : String}
    {count : MemberSort → Int} (h : Counts (r.get id) name count) (s : MemberSort) (n : Int) :
    Typed (r.assign id s.counter (.int n)) := by
  intro other
  by_cases e : id = other
  · subst e
    exact Or.inl ⟨name, _, counts_assign h s n⟩
  · rw [Records.get_assign_ne r e]
    exact ht other

/-- One class takes over a number of another. -/
theorem result_takeOver {w : Workbench} {id other : RecordId} {m n : String}
    {f g : MemberSort → Int} (h : Counts (w.records.get id) m f)
    (h' : Counts (w.records.get other) n g) (s : MemberSort) :
    (takeOver id other s.counter).result w =
      (.ok (), { w with records := w.records.assign id s.counter (.int (max (f s) (g s))) }) := by
  simp only [takeOver, valueOf, Action.orMisuse, Action.amend, Action.result_bind, Action.result_look,
    Action.result_change, h.count s, h'.count s, orMisuse_ok, Value.larger_int]

/-- A record without a number of its next method cannot take over any. -/
theorem result_takeOver_error {w : Workbench} {id other : RecordId} {m : Misuse}
    (h : (w.records.get id).get .methodCount = .error m) :
    (takeOver id other .methodCount).result w = (.error (.misuse m), w) := by
  simp only [takeOver, valueOf, Action.result_bind, Action.result_look, h, orMisuse]

end JavaFragments.Session
