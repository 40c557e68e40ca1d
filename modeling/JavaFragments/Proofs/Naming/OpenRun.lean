import JavaFragments.Proofs.Naming.Registering

/-! # Runs in which any class is registered

In an `OpenRun` classes of any name are registered, also of a name that is not allocated yet.
What is registered is still a class that is found under its name (`Keyed`), because an
operation of such a run does one of three things:

* `quiet_after`              it registers nothing, and no number becomes smaller
* `enters_after_register`    it enters a class that goes on with the numbers under its name
* `enters_after_allocates`   it allocates the next class name and enters a new class under it
* `after_cases`              these are all -/

namespace JavaFragments.Session

open Fragment

namespace NamingOp

/-- Only classes are registered, and a record that members are named for is a class. -/
def OnClasses (w : Workbench) : NamingOp → Prop
  | register id => ∃ name count, Counts (w.records.get id) name count
  | memberName _ (.record id) => ∃ name count, Counts (w.records.get id) name count
  | _ => True

/-- A class name is allocated. -/
def Allocates : NamingOp → Prop
  | className => True
  | newClass _ => True
  | _ => False

/-- A class of a name is registered. -/
def Registers (w : Workbench) (op : NamingOp) (name : String) : Prop :=
  ∃ id, op = register id ∧ w.records.nameOf id = .str name

end NamingOp

/-- An operation with the workbench that it is done on. -/
structure NamingStep where
  op : NamingOp
  before : Workbench

/-- A run from a workbench, with its steps and the workbench after it. -/
inductive OpenRun (start : Workbench) : List NamingStep → Workbench → Prop
  | nil : OpenRun start [] start
  | snoc {steps : List NamingStep} {w : Workbench} (op : NamingOp) :
      OpenRun start steps w → op.OnClasses w → OpenRun start (steps ++ [⟨op, w⟩]) (op.after w)

/-- What is registered is a class that is found under its name. -/
structure Keyed (w : Workbench) : Prop where
  typed : Typed w.records
  registered : ∀ key id, w.session.registry.find? key = some id →
    ∃ name count, key = .str name ∧ Counts (w.records.get id) name count

/-- A number of a member has been used under the name of a class. -/
def UsedNumber (w : Workbench) (s : MemberSort) (name : String) (n : Int) : Prop :=
  ∃ id count, w.session.registry.find? (.str name) = some id ∧
    Counts (w.records.get id) name count ∧ n < count s

/-- Nothing is registered, and no number becomes smaller. -/
structure Quiet (w w' : Workbench) : Prop where
  session : w'.session = w.session
  typed : Typed w'.records
  raises : Raises w.records w'.records

/-- A class is entered under its name, and no number becomes smaller. -/
structure Enters (w w' : Workbench) (name : String) (id : RecordId) : Prop where
  find? : ∀ key, w'.session.registry.find? key =
    if .str name = key then some id else w.session.registry.find? key
  typed : Typed w'.records
  raises : Raises w.records w'.records
  counts : ∃ count, Counts (w'.records.get id) name count

variable {w w' : Workbench}

/-! ## What stays -/

/-- Nothing happens. -/
theorem Quiet.refl (h : Typed w.records) : Quiet w w := ⟨rfl, h, Raises.refl _⟩

/-- What is registered is found as before, and its class still counts its members. -/
theorem Quiet.keyed (hw : Quiet w w') (h : Keyed w) : Keyed w' where
  typed := hw.typed
  registered key id hfind := by
    obtain ⟨name, count, hkey, hcounts⟩ := h.registered key id (hw.session ▸ hfind)
    obtain ⟨count', hcounts', -⟩ := hw.raises id name count hcounts
    exact ⟨name, count', hkey, hcounts'⟩

/-- What was registered is found as before, except under the name that is entered. -/
theorem Enters.keyed {name : String} {id : RecordId} (hw : Enters w w' name id) (h : Keyed w) :
    Keyed w' where
  typed := hw.typed
  registered key other hfind := by
    rw [hw.find?] at hfind
    -- the name that was entered, or another one
    split at hfind
    · rename_i hkey
      obtain rfl := Option.some.inj hfind
      exact ⟨name, hw.counts.choose, hkey.symm, hw.counts.choose_spec⟩
    · obtain ⟨name', count, hkey, hcounts⟩ := h.registered key other hfind
      obtain ⟨count', hcounts', -⟩ := hw.raises other name' count hcounts
      exact ⟨name', count', hkey, hcounts'⟩

/-- A number stays used as long as no other class takes the place of the one it was used for. -/
theorem UsedNumber.of_find? {s : MemberSort} {name : String} {n : Int} (h : UsedNumber w s name n)
    (hfind : w'.session.registry.find? (.str name) = w.session.registry.find? (.str name))
    (hr : Raises w.records w'.records) : UsedNumber w' s name n := by
  obtain ⟨id, count, hid, hcounts, hlt⟩ := h
  obtain ⟨count', hcounts', hle⟩ := hr id name count hcounts
  exact ⟨id, count', hfind.trans hid, hcounts', Int.lt_of_lt_of_le hlt (hle s)⟩

/-- Something is registered under the name of the class that is entered, and under every name that
    was registered. -/
theorem Enters.exists_find?_iff {name : String} {id : RecordId} (hw : Enters w w' name id)
    (other : String) :
    (∃ id, w'.session.registry.find? (.str other) = some id) ↔
      (∃ id, w.session.registry.find? (.str other) = some id) ∨ other = name := by
  rw [hw.find?]
  by_cases heq : other = name
  · simp [heq]
  · have hkey : Key.str name ≠ .str other := fun hkey => heq (Key.str.inj hkey).symm
    simp [heq, hkey]

/-- A class that takes the place of one that was entered before it under the same name. -/
theorem Enters.trans {a b c : Workbench} {name : String} {id id' : RecordId}
    (hab : Enters a b name id) (hbc : Enters b c name id') : Enters a c name id' where
  find? key := by
    rw [hbc.find?, hab.find?]
    split <;> rfl
  typed := hbc.typed
  raises := hab.raises.trans hbc.raises
  counts := hbc.counts

/-- Nothing that is registered is changed by what is done to the records. -/
private theorem Enters.trans_quiet {a b c : Workbench} {name : String} {id : RecordId}
    (hab : Enters a b name id) (hbc : Quiet b c) : Enters a c name id where
  find? key := by rw [hbc.session, hab.find?]
  typed := hbc.typed
  raises := hab.raises.trans hbc.raises
  counts := by
    obtain ⟨count, hcounts⟩ := hab.counts
    obtain ⟨count', hcounts', -⟩ := hbc.raises id name count hcounts
    exact ⟨count', hcounts'⟩

/-! ## What one operation does -/

/-- Only what is registered is found by its name. -/
private theorem exists_find?_of_findClass {s : Session} {v : Value} {id : RecordId}
    (h : findClass s v = .ok id) : ∃ key, s.registry.find? key = some id := by
  simp only [findClass, bind, Except.bind, refuse] at h
  split at h
  · cases h
  · rename_i key _
    split at h
    · rename_i known hfind
      exact ⟨key, Except.ok.inj h ▸ hfind⟩
    · split at h <;> cases h

/-- A class that is referred to was given or is registered, so it counts its members. -/
private theorem counts_of_resolve (h : Keyed w) {s : MemberSort} {ref : ClassRef} {id : RecordId}
    (hop : (NamingOp.memberName s ref).OnClasses w) (hid : resolve w ref = .ok id) :
    ∃ name count, Counts (w.records.get id) name count := by
  -- a class is given as a record or by its name
  cases ref with
  | record id' =>
    obtain ⟨name, count, hcounts⟩ := hop
    rw [resolve, hcounts.sort] at hid
    obtain rfl := Except.ok.inj hid
    exact ⟨name, count, hcounts⟩
  | named v =>
    obtain ⟨key, hfind⟩ := exists_find?_of_findClass hid
    obtain ⟨name, count, -, hcounts⟩ := h.registered key id hfind
    exact ⟨name, count, hcounts⟩

/-- The allocation of the name of a member raises the number of its class, or does nothing. -/
private theorem quiet_after_memberName (h : Keyed w) {s : MemberSort} {ref : ClassRef}
    (hop : (NamingOp.memberName s ref).OnClasses w) :
    Quiet w ((NamingOp.memberName s ref).after w) := by
  rw [NamingOp.after, NamingOp.perform, Action.result_bind]
  cases hid : resolve w ref with
  | error f =>
    rw [result_nextNameOf_error hid]
    exact Quiet.refl h.typed
  | ok id =>
    obtain ⟨name, count, hcounts⟩ := counts_of_resolve h hop hid
    have hle : count s ≤ count s + 1 := by omega
    rw [result_nextNameOf hid hcounts]
    -- a number with too many digits is refused, and nothing is counted
    by_cases hlt : (count s).natAbs < 10 ^ Number.maxDigits
    · rw [if_pos hlt]
      exact ⟨rfl, typed_assign h.typed hcounts s _, raises_assign hcounts hle⟩
    · rw [if_neg hlt]
      exact Quiet.refl h.typed

/-- An operation that neither allocates a class name nor registers a class. -/
theorem quiet_after {op : NamingOp} (h : Keyed w) (hop : op.OnClasses w) (hnew : ¬ op.Allocates)
    (hregister : ∀ name, ¬ op.Registers w name) : Quiet w (op.after w) := by
  -- only the allocation of the name of a member counts anything
  cases op with
  | className => exact absurd trivial hnew
  | newClass parent? => exact absurd trivial hnew
  | construct name parent? methodCount fieldCount =>
    simp only [NamingOp.after, NamingOp.perform, Action.result_bind, Action.result_look]
    cases hbuild : buildClass w.records (.str name) parent? (.int methodCount) (.int fieldCount) with
    | error f => exact Quiet.refl h.typed
    | ok built =>
      obtain ⟨-, ht, hr, -⟩ :=
        counts_buildClass (f := MemberSort.numbered methodCount fieldCount) h.typed hbuild
      exact ⟨rfl, ht, hr⟩
  | setParent id parent? => exact ⟨rfl, typed_setParent h.typed id parent?, raises_setParent w.records id parent?⟩
  | register id =>
    obtain ⟨name, count, hcounts⟩ := hop
    exact absurd ⟨id, rfl, hcounts.name⟩ (hregister name)
  | memberName s ref => exact quiet_after_memberName h hop

/-- Registering a class enters it under its name, where no number that was used becomes free. -/
private theorem enters_registerClass (h : Keyed w) {id : RecordId} {name : String}
    {count : MemberSort → Int} (hcounts : Counts (w.records.get id) name count) :
    ∃ w', (registerClass id).result w = (.ok (), w') ∧ Enters w w' name id ∧
      w'.session.classCount = w.session.classCount ∧
      ∀ s n, UsedNumber w s name n → UsedNumber w' s name n := by
  -- a class that is known under the name already is one that counts its members
  have hknown : ∀ known, w.session.registry.find? (.str name) = some known →
      ∃ knownCount, Counts (w.records.get known) name knownCount := by
    intro known hfind
    obtain ⟨name', knownCount, hkey, hcounts⟩ := h.registered _ known hfind
    obtain rfl := Key.str.inj hkey
    exact ⟨knownCount, hcounts⟩
  obtain ⟨r, count', hresult, ht, hr, hcounts', hle⟩ := result_registerClass h.typed hcounts hknown
  have henters : Enters w (Workbench.entered { w with records := r } name id) name id :=
    ⟨fun key => Registry.find?_enter .., ht, hr, count', hcounts'⟩
  refine ⟨_, hresult, henters, rfl, ?_⟩
  -- the numbers are raised to those of the known class, which lie above all that was used
  rintro s n ⟨known, knownCount, hfind, hused, hlt⟩
  obtain ⟨knownCount', hused', hraised⟩ := hr known name knownCount hused
  refine ⟨id, count', (henters.find? _).trans (if_pos rfl), hcounts', ?_⟩
  exact Int.lt_of_lt_of_le (Int.lt_of_lt_of_le hlt (hraised s)) (hle known _ hfind hused' s)

/-- Registering a class is entering it, and what was used under its name stays used. -/
theorem enters_after_register (h : Keyed w) {id : RecordId} {name : String}
    {count : MemberSort → Int} (hcounts : Counts (w.records.get id) name count) :
    Enters w ((NamingOp.register id).after w) name id ∧
      ((NamingOp.register id).after w).session.classCount = w.session.classCount ∧
      ∀ s n, UsedNumber w s name n → UsedNumber ((NamingOp.register id).after w) s name n := by
  obtain ⟨w', hresult, hw'⟩ := enters_registerClass h hcounts
  have hafter : (NamingOp.register id).after w = w' := by
    rw [NamingOp.after, NamingOp.perform, Action.result_bind, hresult]
    rfl
  rwa [hafter]

/-- An allocated name is entered with a new class. -/
private theorem enters_allocated (h : Keyed w) :
    Enters w w.allocated (classNameOf w.session.classCount) ⟨w.records.all.size⟩ :=
  ⟨find?_allocated w, typed_allocated h.typed, raises_allocated w, _, counts_allocated w⟩

/-- A new class is refused or entered in the place of the one that its name was entered with. -/
theorem newClass_cases (h : Keyed w) (parent? : Option RecordId) :
    (∃ f, (newClass parent?).result w = (.error f, w.allocated)) ∨
      ∃ c w', (newClass parent?).result w = (.ok c, w') ∧ w.records.all.size ≤ c.index ∧
        Enters w w' (classNameOf w.session.classCount) c ∧
        w'.session.classCount = w.session.classCount + 1 := by
  rw [result_newClass]
  cases hbuild : buildClass w.allocated.records (.str (classNameOf w.session.classCount)) parent?
      (.int 0) (.int 0) with
  | error f => exact .inl ⟨f, rfl⟩
  | ok built =>
    obtain ⟨c, r⟩ := built
    obtain ⟨hc, ht, hr, hcounts⟩ :=
      counts_buildClass (f := fun _ => 0) (typed_allocated h.typed) hbuild
    -- the new class is entered in the place of the one that the name was allocated with
    have hbuilt := (enters_allocated h).trans_quiet (c := { w.allocated with records := r }) ⟨rfl, ht, hr⟩
    obtain ⟨w', hresult, henters, hcount, -⟩ := enters_registerClass (hbuilt.keyed h) hcounts
    refine .inr ⟨c, w', ?_, ?_, hbuilt.trans henters, hcount⟩
    · simp only [Action.result_bind, hresult, Action.result_pure]
    · rw [hc]
      exact (Array.size_push ..).symm ▸ Nat.le_succ _

/-- The allocation of a class name enters a new class under the next name, whatever is registered
    under it.  Only a new class may be refused. -/
theorem enters_after_allocates {op : NamingOp} (h : Keyed w) (hnew : op.Allocates) :
    (op.issues w = [classNameOf w.session.classCount] ∨ op ≠ .className ∧ op.issues w = []) ∧
      (op.after w).session.classCount = w.session.classCount + 1 ∧
      ∃ id, w.records.all.size ≤ id.index ∧
        Enters w (op.after w) (classNameOf w.session.classCount) id := by
  cases op with
  | className => exact ⟨.inl rfl, rfl, _, Nat.le_refl _, enters_allocated h⟩
  | newClass parent? =>
    simp only [NamingOp.issues, NamingOp.after, NamingOp.perform, Action.result_bind]
    rcases newClass_cases h parent? with ⟨f, hresult⟩ | ⟨c, w', hresult, hsize, henters, hcount⟩
    · simp only [hresult]
      exact ⟨.inr ⟨nofun, trivial⟩, rfl, _, Nat.le_refl _, enters_allocated h⟩
    · obtain ⟨count, hcounts⟩ := henters.counts
      have hname : w'.records.nameOf c = .str (classNameOf w.session.classCount) := hcounts.name
      simp only [hresult, Action.result_look, Action.result_pure, hname, written_str]
      exact ⟨.inl trivial, hcount, c, hsize, henters⟩
  | _ => exact hnew.elim

/-- All that an operation of a run can do. -/
theorem after_cases {op : NamingOp} (h : Keyed w) (hop : op.OnClasses w) :
    (¬ op.Allocates ∧ (∀ name, ¬ op.Registers w name) ∧ Quiet w (op.after w)) ∨
      (¬ op.Allocates ∧ ∃ name id, (∀ other, op.Registers w other ↔ other = name) ∧
        Enters w (op.after w) name id ∧
        (op.after w).session.classCount = w.session.classCount ∧
        ∀ s n, UsedNumber w s name n → UsedNumber (op.after w) s name n) ∨
      (op.Allocates ∧ (∀ name, ¬ op.Registers w name) ∧
        (op.after w).session.classCount = w.session.classCount + 1 ∧
        ∃ id, w.records.all.size ≤ id.index ∧
          Enters w (op.after w) (classNameOf w.session.classCount) id) := by
  -- an allocation is no registration, as they are different operations
  by_cases hnew : op.Allocates
  · refine .inr (.inr ⟨hnew, ?_, (enters_after_allocates h hnew).2⟩)
    rintro name ⟨id, rfl, -⟩
    exact hnew
  · by_cases hregister : ∃ name, op.Registers w name
    · obtain ⟨name, id, rfl, hname⟩ := hregister
      obtain ⟨name', count, hcounts⟩ := hop
      obtain rfl : name' = name := Value.str.inj (hcounts.name.symm.trans hname)
      refine .inr (.inl ⟨hnew, name', id, fun other => ⟨?_, ?_⟩, enters_after_register h hcounts⟩)
      · rintro ⟨id', ⟨⟩, hother⟩
        exact Value.str.inj (hother.symm.trans hname)
      · rintro rfl
        exact ⟨id, rfl, hname⟩
    · have hregister := not_exists.1 hregister
      exact .inl ⟨hnew, hregister, quiet_after h hop hnew hregister⟩

end JavaFragments.Session
