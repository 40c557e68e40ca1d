import JavaFragments.Proofs.Naming.OpenRun

/-! # Class names that are registered before they are allocated

A class may be registered under a name that the session has not allocated yet.  When the
session comes to that name it allocates it all the same, and the new class takes the place of
the registered one and counts its members from zero on:

* `registered_of_run`           the names that are registered in a run
* `replaces_iff`                when an allocation replaces a registered class
* `requested_of_run`            the names of members between two such allocations
* `takenOver_iff_registered`    all of this for every run from a fresh session -/

namespace JavaFragments.Session

open Fragment

/-- A registered class is not what is registered under its name afterwards. -/
def NamingOp.Replaces (w : Workbench) (op : NamingOp) : Prop :=
  ∃ key id, w.session.registry.find? key = some id ∧
    (op.after w).session.registry.find? key ≠ some id

namespace NamingStep

/-- A class of a name is registered. -/
def Registers (step : NamingStep) (name : String) : Prop := step.op.Registers step.before name

/-- A name is allocated that a class is registered under. -/
def TakesOver (step : NamingStep) (name : String) : Prop :=
  step.op.Allocates ∧ classNameOf step.before.session.classCount = name ∧
    .str name ∈ step.before.session.registry.keys

/-- What is issued when the name of a member is asked for by the name of its class. -/
def requested (s : MemberSort) (name : String) (step : NamingStep) : List String :=
  match step.op with
  | .memberName s' (.named (.str name')) =>
    if s' = s ∧ name' = name then step.op.issues step.before else []
  | _ => []

end NamingStep

variable {start w : Workbench} {steps : List NamingStep} {op : NamingOp}

/-! ## What is registered -/

/-- A key is registered if something is found under it. -/
private theorem mem_keys_iff {r : Registry} {key : Key} :
    key ∈ r.keys ↔ ∃ id, r.find? key = some id := by
  refine ⟨Registry.exists_find?_of_mem, fun ⟨id, hfind⟩ => ?_⟩
  obtain ⟨registration, hget, -⟩ := Option.map_eq_some_iff.1 hfind
  exact List.mem_map_of_mem (OrderedMap.mem_entries_of_get? hget)

/-- In a fresh session nothing is registered. -/
theorem Fresh.keyed (h : Fresh start) : Keyed start where
  typed := h.typed
  registered key id hfind := by
    rw [h.registry] at hfind
    cases hfind

/-- Whatever an operation does, what is registered stays found under its name. -/
private theorem keyed_after (h : Keyed w) (hop : op.OnClasses w) : Keyed (op.after w) := by
  rcases after_cases h hop with
    ⟨-, -, hquiet⟩ | ⟨-, name, id, -, henters, -⟩ | ⟨-, -, -, id, -, henters⟩
  · exact hquiet.keyed h
  · exact henters.keyed h
  · exact henters.keyed h

/-- So it is after every run from a fresh session. -/
private theorem keyed_of_run (h : Fresh start) (hrun : OpenRun start steps w) : Keyed w := by
  -- on the run, step by step
  induction hrun with
  | nil => exact h.keyed
  | snoc op _ hop ih => exact keyed_after ih hop

/-- A name is registered that was registered before, that is allocated, or that a class is
    registered under. -/
private theorem registered_after (h : Keyed w) (hop : op.OnClasses w) (name : String) :
    (∃ id, (op.after w).session.registry.find? (.str name) = some id) ↔
      (∃ id, w.session.registry.find? (.str name) = some id) ∨
        (op.Allocates ∧ name = classNameOf w.session.classCount) ∨ op.Registers w name := by
  -- whether it is quiet, registers a class, or allocates a name
  rcases after_cases h hop with ⟨hnew, hregister, hquiet⟩ |
    ⟨hnew, name', id, hregister, henters, -⟩ | ⟨hnew, hregister, -, id, -, henters⟩
  · simp [hquiet.session, hnew, hregister]
  · simp [henters.exists_find?_iff, hnew, hregister]
  · simp [henters.exists_find?_iff, hnew, hregister]

/-- The number of the next class name counts the allocations. -/
private theorem classCount_after (h : Keyed w) (hop : op.OnClasses w) (i : Nat) :
    i < (op.after w).session.classCount ↔
      i < w.session.classCount ∨ (op.Allocates ∧ i = w.session.classCount) := by
  rcases after_cases h hop with ⟨hnew, -, hquiet⟩ | ⟨hnew, -, -, -, -, hcount, -⟩ |
    ⟨hnew, -, hcount, -⟩
  · simp [hquiet.session, hnew]
  · simp [hcount, hnew]
  · simp [hcount, hnew]
    omega

/-- The names that are registered in a run: those that were allocated, and those that classes were
    registered under. -/
theorem registered_of_run (h : Fresh start) (hrun : OpenRun start steps w) (name : String) :
    (∃ id, w.session.registry.find? (.str name) = some id) ↔
      (∃ i, i < w.session.classCount ∧ name = classNameOf i) ∨ ∃ step ∈ steps, step.Registers name := by
  -- on the run: one step adds the name it allocates or registers under
  induction hrun with
  | nil =>
    have hnone : start.session.registry.find? (.str name) = none := by
      rw [h.registry]
      rfl
    simp [hnone, h.classCount]
  | @snoc steps w op hrun hop ih =>
    have hkeyed := keyed_of_run h hrun
    have hcount : (∃ i, i < (op.after w).session.classCount ∧ name = classNameOf i) ↔
        (∃ i, i < w.session.classCount ∧ name = classNameOf i) ∨
          (op.Allocates ∧ name = classNameOf w.session.classCount) := by
      simp only [classCount_after hkeyed hop, or_and_right, exists_or]
      simp only [and_assoc, exists_and_left, exists_eq_left]
    have hregister : (∃ step ∈ steps ++ [⟨op, w⟩], step.Registers name) ↔
        (∃ step ∈ steps, step.Registers name) ∨ op.Registers w name := by
      simp only [List.mem_append, List.mem_singleton, or_and_right, exists_or, exists_eq_left]
      rfl
    rw [registered_after hkeyed hop, ih, hcount, hregister]
    simp only [or_assoc, or_left_comm]

/-- The next class name is registered if a class of that name was registered. -/
private theorem next_registered_iff (h : Fresh start) (hrun : OpenRun start steps w) :
    .str (classNameOf w.session.classCount) ∈ w.session.registry.keys ↔
      ∃ step ∈ steps, step.Registers (classNameOf w.session.classCount) := by
  rw [mem_keys_iff, registered_of_run h hrun]
  refine ⟨fun hname => hname.resolve_left ?_, .inr⟩
  -- the allocated names have smaller numbers
  rintro ⟨i, hlt, heq⟩
  exact absurd (classNameOf_inj (congrArg Key.str heq)) (Nat.ne_of_gt hlt)

/-- An allocation replaces a registered class if its name is registered. -/
theorem replaces_iff (h : Keyed w) (hnew : op.Allocates) :
    op.Replaces w ↔ .str (classNameOf w.session.classCount) ∈ w.session.registry.keys := by
  obtain ⟨-, -, id, hsize, henters⟩ := enters_after_allocates h hnew
  rw [mem_keys_iff]
  constructor
  · rintro ⟨key, known, hfind, hreplaced⟩
    rw [henters.find?] at hreplaced
    by_cases hkey : .str (classNameOf w.session.classCount) = key
    · exact ⟨known, hkey ▸ hfind⟩
    · rw [if_neg hkey] at hreplaced
      exact absurd hfind hreplaced
  · rintro ⟨known, hfind⟩
    refine ⟨_, known, hfind, ?_⟩
    rw [henters.find?, if_pos rfl]
    rintro ⟨⟩
    -- what was registered was among the records already
    obtain ⟨name, count, -, hcounts⟩ := h.registered _ id hfind
    exact absurd hcounts.lt_size (Nat.not_lt.2 hsize)

/-! ## The names of members -/

/-- A number stays used unless its class is taken over. -/
private theorem usedNumber_after (h : Keyed w) (hop : op.OnClasses w) {s : MemberSort}
    {name : String}
    {n : Int} (hkept : ¬ NamingStep.TakesOver ⟨op, w⟩ name) (hused : UsedNumber w s name n) :
    UsedNumber (op.after w) s name n := by
  -- entering a class under another name leaves this one alone
  have henters : ∀ {other id}, Enters w (op.after w) other id → other ≠ name →
      UsedNumber (op.after w) s name n := by
    intro other id henters hne
    have hkey : Key.str other ≠ .str name := fun hkey => hne (Key.str.inj hkey)
    exact hused.of_find? ((henters.find? _).trans (if_neg hkey)) henters.raises
  rcases after_cases h hop with ⟨-, -, hquiet⟩ | ⟨-, other, id, -, hother, -, hnumbers⟩ |
    ⟨hnew, -, -, id, -, hother⟩
  · exact hused.of_find? (by rw [hquiet.session]) hquiet.raises
  · by_cases heq : other = name
    · exact heq ▸ hnumbers s n (heq ▸ hused)
    · exact henters hother heq
  · -- the allocated name would be this one, and it is registered: that is a takeover
    refine henters hother fun heq => hkept ⟨hnew, heq, ?_⟩
    obtain ⟨known, -, hfind, -⟩ := hused
    exact mem_keys_iff.2 ⟨known, hfind⟩

/-- A name that is issued has a number that was not used before and is used then. -/
private theorem issues_memberName (h : Keyed w) (s : MemberSort) (name : String) :
    (NamingOp.memberName s (.named (.str name))).issues w = [] ∨
      ∃ n, (NamingOp.memberName s (.named (.str name))).issues w = [memberText name s n] ∧
        ¬ UsedNumber w s name n ∧
        UsedNumber ((NamingOp.memberName s (.named (.str name))).after w) s name n := by
  simp only [NamingOp.issues, NamingOp.after, NamingOp.perform, Action.result_bind]
  cases hfind : w.session.registry.find? (.str name) with
  | none =>
    have hid : resolve w (.named (.str name)) = .error (.unknownClass (Text.quoted name)) := by
      rw [resolve, findClass_str, hfind]
    rw [result_nextNameOf_error hid]
    exact .inl rfl
  | some id =>
    have hid : resolve w (.named (.str name)) = .ok id := by rw [resolve, findClass_str, hfind]
    obtain ⟨name', count, hkey, hcounts⟩ := h.registered _ id hfind
    obtain rfl := Key.str.inj hkey
    rw [result_nextNameOf hid hcounts]
    by_cases hlt : (count s).natAbs < 10 ^ Number.maxDigits
    · rw [if_pos hlt]
      refine .inr ⟨count s, rfl, ?_, id, _, hfind, counts_assign hcounts s _, ?_⟩
      · -- the number of the next member lies above all that were used
        rintro ⟨id', count', hfind', hcounts', hless⟩
        obtain rfl := Option.some.inj (hfind.symm.trans hfind')
        obtain ⟨-, rfl⟩ := hcounts.unique hcounts'
        exact Int.lt_irrefl _ hless
      · rw [setCount, if_pos rfl]
        omega
    · rw [if_neg hlt]
      exact .inl rfl

/-- A step issues nothing under a name, or one name of a member that was not used before. -/
private theorem requested_cases (h : Keyed w) (op : NamingOp) (s : MemberSort) (name : String) :
    NamingStep.requested s name ⟨op, w⟩ = [] ∨
      ∃ n, NamingStep.requested s name ⟨op, w⟩ = [memberText name s n] ∧
        ¬ UsedNumber w s name n ∧ UsedNumber (op.after w) s name n := by
  unfold NamingStep.requested
  split
  · rename_i s' name' hop
    obtain rfl : op = .memberName s' (.named (.str name')) := hop
    split
    · rename_i heq
      obtain ⟨rfl, rfl⟩ := heq
      exact issues_memberName h s' name'
    · exact .inl rfl
  · exact .inl rfl

/-- The names that were asked for since a name was taken over are different, and their numbers are
    used. -/
theorem requested_of_run (h : Fresh start) (hrun : OpenRun start steps w) (s : MemberSort)
    (name : String) {recent : List NamingStep} (hrecent : recent <:+ steps)
    (hkept : ∀ step ∈ recent, ¬ step.TakesOver name) :
    (recent.flatMap (·.requested s name)).Nodup ∧
      ∀ text ∈ recent.flatMap (·.requested s name),
        ∃ n, text = memberText name s n ∧ UsedNumber w s name n := by
  -- on the run: what a step issues has a number that no step before it has used
  induction hrun generalizing recent with
  | nil =>
    obtain rfl := List.suffix_nil.1 hrecent
    exact ⟨List.nodup_nil, nofun⟩
  | @snoc steps w op hrun hop ih =>
    rcases List.suffix_concat_iff.1 hrecent with rfl | ⟨earlier, rfl, hearlier⟩
    · exact ⟨List.nodup_nil, nofun⟩
    · have hkeyed := keyed_of_run h hrun
      have hlast := hkept _ (List.mem_append_right _ (List.mem_singleton_self _))
      obtain ⟨hnodup, hused⟩ := ih hearlier fun step hstep => hkept step (List.mem_append_left _ hstep)
      have hstill : ∀ text ∈ earlier.flatMap (·.requested s name),
          ∃ n, text = memberText name s n ∧ UsedNumber (op.after w) s name n := by
        intro text htext
        obtain ⟨n, htext, hn⟩ := hused text htext
        exact ⟨n, htext, usedNumber_after hkeyed hop hlast hn⟩
      rw [List.flatMap_append, List.flatMap_singleton]
      rcases requested_cases hkeyed op s name with hnone | ⟨n, hissued, hfree, hn⟩
      · rw [hnone, List.append_nil]
        exact ⟨hnodup, hstill⟩
      · rw [hissued]
        refine ⟨List.nodup_append.2 ⟨hnodup, by simp, ?_⟩, ?_⟩
        · rintro text htext _ hlast rfl
          obtain ⟨m, rfl, hm⟩ := hused text htext
          exact hfree (memberText_injective (List.mem_singleton.1 hlast) ▸ hm)
        · intro text htext
          rcases List.mem_append.1 htext with htext | htext
          · exact hstill text htext
          · exact ⟨n, List.mem_singleton.1 htext, hn⟩

/-- In every run from a fresh session in which classes of any name are registered, the next class
    name is registered already if and only if a class of that name was registered before, and then
    the allocation of that name, and no other one, replaces a registered class.  Between two such
    allocations of a name no two methods and no two fields that are asked for by that name are
    named alike. -/
theorem takenOver_iff_registered (h : Fresh start) (hrun : OpenRun start steps w) :
    (∀ op : NamingOp, op.Allocates →
      (op.issues w = [classNameOf w.session.classCount] ∨ op ≠ .className ∧ op.issues w = []) ∧
      (.str (classNameOf w.session.classCount) ∈ w.session.registry.keys ↔
        ∃ step ∈ steps, step.Registers (classNameOf w.session.classCount)) ∧
      (op.Replaces w ↔ ∃ step ∈ steps, step.Registers (classNameOf w.session.classCount))) ∧
    ∀ (s : MemberSort) (name : String) (recent : List NamingStep), recent <:+ steps →
      (∀ step ∈ recent, ¬ step.TakesOver name) → (recent.flatMap (·.requested s name)).Nodup := by
  constructor
  · intro op hnew
    have hkeyed := keyed_of_run h hrun
    have hnext := next_registered_iff h hrun
    exact ⟨(enters_after_allocates hkeyed hnew).1, hnext, (replaces_iff hkeyed hnew).trans hnext⟩
  · intro s name recent hrecent hkept
    exact (requested_of_run h hrun s name hrecent hkept).1

/-- A class that is made by the caller can be registered. -/
private theorem onClasses_register_construct (settings : Settings) (source : Random.Source)
    (name : String) (methods fields : Int) :
    (NamingOp.register ⟨0⟩).OnClasses
      ((NamingOp.construct name none methods fields).after (.unused settings source)) :=
  ⟨name, MemberSort.numbered methods fields, rfl, rfl, fun s => by cases s <;> rfl⟩

/-- A class is registered under the second class name, and the first one is allocated. -/
theorem takenOver_iff_registered_ahead :
    ∃ steps w, OpenRun (.unused default { generator := .script [] 0 }) steps w ∧
      NamingOp.className.issues w = ["Class_1"] ∧ NamingOp.className.Replaces w ∧
      steps.flatMap (·.requested .method "Class_1") = ["class_1_method_3", "class_1_method_4"] ∧
      (steps.flatMap (·.requested .method "Class_1")).Nodup := by
  let start := Workbench.unused default { generator := .script [] 0 }
  let ask := NamingOp.memberName .method (.named (.str "Class_1"))
  have hrun : OpenRun start _ _ :=
    .snoc ask (.snoc .className (.snoc ask (.snoc (.register ⟨0⟩)
      (.snoc (.construct "Class_1" none 3 0) .nil trivial)
      (onClasses_register_construct ..)) trivial) trivial) trivial
  have hmain := takenOver_iff_registered (fresh_unused _ _) hrun
  refine ⟨_, _, hrun, by decide +kernel, ?_, by decide +kernel, ?_⟩
  · exact (hmain.1 .className trivial).2.2.2
      ⟨⟨.register ⟨0⟩, (NamingOp.construct "Class_1" none 3 0).after start⟩, by simp, ⟨0⟩, rfl,
        congrArg Value.str (by decide +kernel)⟩
  · refine hmain.2 .method "Class_1" _ (List.suffix_refl _) ?_
    rintro step hstep ⟨hnew, hname, -⟩
    simp only [List.nil_append, List.cons_append, List.mem_cons, List.not_mem_nil, or_false] at hstep
    rcases hstep with rfl | rfl | rfl | rfl | rfl
    -- the fourth step allocates the first class name, and the others allocate none
    · exact hnew
    · exact hnew
    · exact hnew
    · exact absurd hname (by decide +kernel)
    · exact hnew

/-- A class that was registered under the next class name is replaced, and the name of its method is
    issued again. -/
theorem requested_takenOver :
    ∃ steps w, OpenRun (.unused default { generator := .script [] 0 }) steps w ∧
      (∃ step ∈ steps, step.TakesOver "Class_0" ∧ step.op.issues step.before = ["Class_0"] ∧
        step.op.Replaces step.before) ∧
      steps.flatMap (·.requested .method "Class_0") = ["class_0_method_0", "class_0_method_0"] := by
  let start := Workbench.unused default { generator := .script [] 0 }
  let ask := NamingOp.memberName .method (.named (.str "Class_0"))
  let before := ask.after ((NamingOp.register ⟨0⟩).after
    ((NamingOp.construct "Class_0" none 0 0).after start))
  have hrun : OpenRun start _ _ :=
    .snoc ask (.snoc .className (.snoc ask (.snoc (.register ⟨0⟩)
      (.snoc (.construct "Class_0" none 0 0) .nil trivial)
      (onClasses_register_construct ..)) trivial) trivial) trivial
  refine ⟨_, _, hrun, ⟨⟨.className, before⟩, by simp [before], ?_, by decide +kernel, ?_⟩,
    by decide +kernel⟩
  · exact ⟨trivial, by decide +kernel, by decide +kernel⟩
  · exact ⟨.str "Class_0", ⟨0⟩, by decide +kernel, by decide +kernel⟩

end JavaFragments.Session
