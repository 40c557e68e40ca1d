import JavaFragments.Proofs.Naming.Run

/-! # Registering a class

A class that is registered takes over the numbers of what is registered under its name, so that
no member is numbered twice:

* `counts_buildClass`      a class that is made counts from the given numbers on
* `result_takeOver_both`   one class takes over both numbers of another
* `result_registerClass`   what registering a class does to the records and the registry -/

namespace JavaFragments.Session

open Fragment

/-- A class that is made counts from the given numbers on and changes no other class. -/
theorem counts_buildClass {r r' : Records} {name : String} {parent? : Option RecordId}
    {c : RecordId} {f : MemberSort → Int} (ht : Typed r)
    (h : buildClass r (.str name) parent? (.int (f .method)) (.int (f .field)) =
      .ok (c, r')) :
    c = ⟨r.all.size⟩ ∧ Typed r' ∧ Raises r r' ∧ Counts (r'.get c) name f := by
  have hadd := eq_add_of_buildClass h
  obtain rfl : c = ⟨r.all.size⟩ := congrArg Prod.fst hadd
  obtain rfl : r' = (r.add _).2 := congrArg Prod.snd hadd
  have hcounts := counts_ofClass name (Records.place parent?) f
  refine ⟨rfl, typed_add ht hcounts, raises_add r _, ?_⟩
  rw [← Records.get_add_self r (.ofClass ..)] at hcounts
  exact hcounts

/-! ## Allocated names -/

/-- Different numbers of classes give different keys. -/
theorem classNameOf_inj {i j : Nat} (h : Key.str (classNameOf i) = .str (classNameOf j)) : i = j :=
  IssuedName.ofClass.inj (text_injective (a := .ofClass i) (b := .ofClass j) (Key.str.inj h))

/-- What `allocated` leaves in the registry. -/
theorem find?_allocated (w : Workbench) (key : Key) :
    w.allocated.session.registry.find? key =
      if .str (classNameOf w.session.classCount) = key then some ⟨w.records.all.size⟩
      else w.session.registry.find? key :=
  Registry.find?_enter ..

/-- The class that is registered with an allocated name counts from zero on. -/
theorem counts_allocated (w : Workbench) :
    Counts (w.allocated.records.get ⟨w.records.all.size⟩) (classNameOf w.session.classCount)
      fun _ => 0 := by
  have hget : w.allocated.records.get ⟨w.records.all.size⟩ = bareClass w.session.classCount :=
    Records.get_add_self ..
  rw [hget]
  exact counts_ofClass (classNameOf w.session.classCount) _ fun _ => 0

/-- A class that is allocated is well typed. -/
theorem typed_allocated {w : Workbench} (h : Typed w.records) : Typed w.allocated.records :=
  typed_add h (counts_ofClass (classNameOf w.session.classCount) _ fun _ => 0)

/-- It makes no number smaller. -/
theorem raises_allocated (w : Workbench) : Raises w.records w.allocated.records :=
  raises_add w.records _

/-! ## Registered classes -/

/-- A class takes over both numbers of another. -/
theorem result_takeOver_both {w : Workbench} {id other : RecordId} {m n : String}
    {f g : MemberSort → Int} (hne : other ≠ id) (h : Counts (w.records.get id) m f)
    (h' : Counts (w.records.get other) n g) (ht : Typed w.records) :
    ∃ v r, (takeOver id other .methodCount).result w = (.ok (), v) ∧
      (takeOver id other .fieldCount).result v = (.ok (), { w with records := r }) ∧
      Typed r ∧ Raises w.records r ∧ Counts (r.get id) m (fun s => max (f s) (g s)) ∧
      Counts (r.get other) n g := by
  -- first the number of the next method is taken over, then that of the next field
  let r₁ := w.records.assign id .methodCount (.int (max (f .method) (g .method)))
  let r₂ := r₁.assign id .fieldCount (.int (max (f .field) (g .field)))
  have hmethod : Counts (r₁.get id) m (setCount f .method (max (f .method) (g .method))) :=
    counts_assign h .method _
  have hother : Counts (r₁.get other) n g := by
    rw [Records.get_assign_ne _ hne.symm]
    exact h'
  -- each number is now the larger one of both
  have hboth : Counts (r₂.get id) m fun s => max (f s) (g s) := by
    have hcount : setCount (setCount f .method (max (f .method) (g .method))) .field
        (max (f .field) (g .field)) = fun s => max (f s) (g s) := by
      funext s
      cases s <;> rfl
    exact hcount ▸ counts_assign hmethod .field _
  have hfirst : (takeOver id other .methodCount).result w = (.ok (), { w with records := r₁ }) :=
    result_takeOver h h' .method
  have hsecond : (takeOver id other .fieldCount).result { w with records := r₁ } =
      (.ok (), { w with records := r₂ }) :=
    result_takeOver (w := { w with records := r₁ }) hmethod hother .field
  refine ⟨_, r₂, hfirst, hsecond, ?_, ?_, hboth, ?_⟩
  · exact typed_assign (typed_assign ht h .method _) hmethod .field _
  · have hfirst' : Raises w.records r₁ := raises_assign h (s := .method) (Int.le_max_left ..)
    have hsecond' : Raises r₁ r₂ := raises_assign hmethod (s := .field) (Int.le_max_left ..)
    exact hfirst'.trans hsecond'
  · rw [Records.get_assign_ne _ hne.symm]
    exact hother

/-- The workbench with a record under a name. -/
def Workbench.entered (w : Workbench) (name : String) (id : RecordId) : Workbench :=
  { w with session := { w.session with
    registry := w.session.registry.enter (.str name) (.str name) id } }

/-- A class is registered, and goes on with the larger numbers where another was registered under
    its name. -/
theorem result_registerClass {w : Workbench} {id : RecordId} {name : String}
    {count : MemberSort → Int} (ht : Typed w.records) (h : Counts (w.records.get id) name count)
    (hknown : ∀ known, w.session.registry.find? (.str name) = some known →
      ∃ knownCount, Counts (w.records.get known) name knownCount) :
    ∃ r count',
      (registerClass id).result w = (.ok (), Workbench.entered { w with records := r } name id) ∧
      Typed r ∧ Raises w.records r ∧ Counts (r.get id) name count' ∧
      ∀ known knownCount, w.session.registry.find? (.str name) = some known →
        Counts (r.get known) name knownCount → ∀ s, knownCount s ≤ count' s := by
  have hname : w.records.nameOf id = .str name := h.name
  -- nothing is known under the name, the class itself is, or another one
  cases hfind : w.session.registry.find? (.str name) with
  | none =>
    refine ⟨w.records, count, ?_, ht, Raises.refl _, h, nofun⟩
    simp [registerClass, Action.result_bind, hname, keyOf, hfind, Workbench.entered]
  | some known =>
    by_cases heq : known = id
    · -- the same class is registered again
      subst heq
      refine ⟨w.records, count, ?_, ht, Raises.refl _, h, ?_⟩
      · simp [registerClass, Action.result_bind, hname, keyOf, hfind, Workbench.entered]
      · rintro _ knownCount ⟨⟩ hcounts s
        obtain ⟨-, rfl⟩ := h.unique hcounts
        exact Int.le_refl _
    · obtain ⟨knownCount, hcounts⟩ := hknown known hfind
      obtain ⟨v, r, hfirst, hsecond, ht', hr, hboth, hother⟩ :=
        result_takeOver_both heq h hcounts ht
      refine ⟨r, _, ?_, ht', hr, hboth, ?_⟩
      · simp only [registerClass, Action.result_bind, Action.result_look, Action.result_change, hname,
          keyOf, Value.key?_str, hfind, ne_eq, heq, not_false_eq_true, if_true, hfirst, hsecond,
          Workbench.entered]
      · rintro _ knownCount' ⟨⟩ hcounts' s
        obtain ⟨-, rfl⟩ := hother.unique hcounts'
        exact Int.le_max_right ..

end JavaFragments.Session
