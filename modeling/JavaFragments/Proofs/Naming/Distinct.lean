import JavaFragments.Proofs.Naming.Registering

/-! # No name is issued twice

A workbench is `Consistent` if its registry holds exactly such classes as its session numbers:
under `Class_i` with `i` below the number of the next class, a class of that name that counts
its members from zero on.  A name is `UsedUp` once the number of its class, or of the next
member of its class, is larger than the one in the name.  An operation `Advances` the
workbench by the names that it issues: they were not used up before and are used up
afterwards, and nothing that was used up becomes free again.

* `advances_of_raises`    records with the same or larger numbers
* `advances_allocated`    the allocation of a class name
* `advances_register`     a class takes the place of another under its name
* `advances_memberName`   the allocation of the name of a member
* `advances_after`        one operation of a run
* `advances_of_run`       a run from a fresh session -/

namespace JavaFragments.Session

open Fragment

/-- Every registered class is found under its name, has an allocated number and counts its
    members. -/
structure Consistent (w : Workbench) : Prop where
  typed : Typed w.records
  registered : ∀ key id, w.session.registry.find? key = some id →
    ∃ i count, key = .str (classNameOf i) ∧ i < w.session.classCount ∧
      Counts (w.records.get id) (classNameOf i) count ∧ ∀ s, 0 ≤ count s

/-- A name cannot be issued any more. -/
def UsedUp (w : Workbench) : IssuedName → Prop
  | .ofClass i => i < w.session.classCount
  | .ofMember s i k => ∃ id count,
      w.session.registry.find? (.str (classNameOf i)) = some id ∧
      Counts (w.records.get id) (classNameOf i) count ∧ (k : Int) < count s

/-- What an operation on a consistent workbench that issues some names does. -/
structure Advances (w : Workbench) (names : List IssuedName) (w' : Workbench) : Prop where
  consistent : Consistent w'
  keeps : ∀ n, UsedUp w n → UsedUp w' n
  free : ∀ n ∈ names, ¬ UsedUp w n
  used : ∀ n ∈ names, UsedUp w' n
  nodup : names.Nodup

/-- What is registered under a class name. -/
theorem Consistent.counts {w : Workbench} (h : Consistent w) {i : Nat} {id : RecordId}
    (hfind : w.session.registry.find? (.str (classNameOf i)) = some id) :
    i < w.session.classCount ∧
      ∃ count, Counts (w.records.get id) (classNameOf i) count ∧ ∀ s, 0 ≤ count s := by
  obtain ⟨j, count, hkey, hlt, hcounts, hpos⟩ := h.registered _ id hfind
  obtain rfl := classNameOf_inj hkey
  exact ⟨hlt, count, hcounts, hpos⟩

/-! ## Operations one after the other -/

/-- Nothing is issued and nothing is done. -/
theorem Advances.refl {w : Workbench} (h : Consistent w) : Advances w [] w where
  consistent := h
  keeps _ hn := hn
  free := nofun
  used := nofun
  nodup := List.nodup_nil

/-- An operation may issue fewer names than it uses up. -/
theorem Advances.drop {w w' : Workbench} {names : List IssuedName} (h : Advances w names w') :
    Advances w [] w' :=
  { h with free := nofun, used := nofun, nodup := List.nodup_nil }

/-- Two operations issue different names, because the first one uses its names up. -/
theorem Advances.trans {a b c : Workbench} {names names' : List IssuedName}
    (hab : Advances a names b) (hbc : Advances b names' c) : Advances a (names ++ names') c where
  consistent := hbc.consistent
  keeps n hn := hbc.keeps n (hab.keeps n hn)
  free n hn := by
    rcases List.mem_append.1 hn with hn | hn
    · exact hab.free n hn
    · exact fun hused => hbc.free n hn (hab.keeps n hused)
  used n hn := by
    rcases List.mem_append.1 hn with hn | hn
    · exact hbc.keeps n (hab.used n hn)
    · exact hbc.used n hn
  nodup := by
    rw [List.nodup_append]
    refine ⟨hab.nodup, hbc.nodup, ?_⟩
    intro n hn n' hn' heq
    exact hbc.free n' hn' (heq ▸ hab.used n hn)

/-! ## The operations -/

/-- Records with the same or larger numbers issue nothing. -/
theorem advances_of_raises {w w' : Workbench} (h : Consistent w) (hs : w'.session = w.session)
    (ht : Typed w'.records) (hr : Raises w.records w'.records) : Advances w [] w' where
  consistent :=
    { typed := ht
      registered := by
        intro key id hfind
        rw [hs] at hfind ⊢
        obtain ⟨i, count, hkey, hlt, hcounts, hpos⟩ := h.registered key id hfind
        obtain ⟨count', hcounts', hle⟩ := hr id _ _ hcounts
        exact ⟨i, count', hkey, hlt, hcounts', fun s => Int.le_trans (hpos s) (hle s)⟩ }
  keeps n hn := by
    cases n with
    | ofClass i =>
      rw [UsedUp, hs]
      exact hn
    | ofMember s i k =>
      obtain ⟨id, count, hfind, hcounts, hlt⟩ := hn
      obtain ⟨count', hcounts', hle⟩ := hr id _ _ hcounts
      exact ⟨id, count', hs ▸ hfind, hcounts', Int.lt_of_lt_of_le hlt (hle s)⟩
  free := nofun
  used := nofun
  nodup := List.nodup_nil

/-- The allocation of a class name uses up that name. -/
theorem advances_allocated {w : Workbench} (h : Consistent w) :
    Advances w [.ofClass w.session.classCount] w.allocated := by
  have hr := raises_allocated w
  have hcount : w.allocated.session.classCount = w.session.classCount + 1 := rfl
  refine ⟨⟨typed_allocated h.typed, ?_⟩, ?_, ?_, ?_, by simp⟩
  · intro key id hfind
    rw [find?_allocated] at hfind
    split at hfind
    · -- the new key belongs to the new class, whose number is the largest now
      rename_i hkey
      obtain rfl := Option.some.inj hfind
      exact ⟨_, _, hkey.symm, Nat.lt_succ_self _, counts_allocated w, fun _ => Int.le_refl _⟩
    · obtain ⟨i, count, hkey, hlt, hcounts, hpos⟩ := h.registered key id hfind
      obtain ⟨count', hcounts', hle⟩ := hr id _ _ hcounts
      exact ⟨i, count', hkey, by omega, hcounts', fun s => Int.le_trans (hpos s) (hle s)⟩
  · intro n hn
    cases n with
    | ofClass i => exact Nat.lt_succ_of_lt hn
    | ofMember s i k =>
      obtain ⟨id, count, hfind, hcounts, hlt⟩ := hn
      -- a registered class has a smaller number than the one allocated now
      have hne : Key.str (classNameOf w.session.classCount) ≠ .str (classNameOf i) := by
        intro hkey
        obtain rfl := classNameOf_inj hkey
        exact Nat.lt_irrefl _ (h.counts hfind).1
      obtain ⟨count', hcounts', hle⟩ := hr id _ _ hcounts
      refine ⟨id, count', ?_, hcounts', Int.lt_of_lt_of_le hlt (hle s)⟩
      rw [find?_allocated, if_neg hne]
      exact hfind
  · intro n hn
    obtain rfl := List.mem_singleton.1 hn
    exact Nat.lt_irrefl w.session.classCount
  · intro n hn
    obtain rfl := List.mem_singleton.1 hn
    exact Nat.lt_succ_self w.session.classCount

/-- A class takes the place of another under its name if its numbers are not smaller. -/
private theorem advances_enter {w : Workbench} (h : Consistent w) {i : Nat} {id known : RecordId}
    {count knownCount : MemberSort → Int}
    (hfind : w.session.registry.find? (.str (classNameOf i)) = some known)
    (hknown : Counts (w.records.get known) (classNameOf i) knownCount)
    (hcounts : Counts (w.records.get id) (classNameOf i) count) (hle : ∀ s, knownCount s ≤ count s) :
    Advances w [] { w with session := { w.session with
      registry := w.session.registry.enter (.str (classNameOf i)) (.str (classNameOf i)) id } } := by
  obtain ⟨hlt, known', hknown', hpos⟩ := h.counts hfind
  obtain ⟨-, rfl⟩ := hknown.unique hknown'
  refine ⟨⟨h.typed, ?_⟩, ?_, nofun, nofun, List.nodup_nil⟩
  · intro key other hother
    simp only [Registry.find?_enter] at hother
    split at hother
    · rename_i hkey
      obtain rfl := Option.some.inj hother
      exact ⟨i, count, hkey.symm, hlt, hcounts, fun s => Int.le_trans (hpos s) (hle s)⟩
    · exact h.registered key other hother
  · intro n hn
    cases n with
    | ofClass j => exact hn
    | ofMember s j k =>
      obtain ⟨other, otherCount, hother, hotherCounts, hk⟩ := hn
      by_cases hkey : Key.str (classNameOf i) = .str (classNameOf j)
      · -- what the class before has used up, the one in its place has as well
        obtain rfl := classNameOf_inj hkey
        obtain rfl := Option.some.inj (hfind.symm.trans hother)
        obtain ⟨-, rfl⟩ := hknown.unique hotherCounts
        refine ⟨id, count, ?_, hcounts, Int.lt_of_lt_of_le hk (hle s)⟩
        simp only [Registry.find?_enter, if_pos]
      · refine ⟨other, otherCount, ?_, hotherCounts, hk⟩
        simp only [Registry.find?_enter, if_neg hkey]
        exact hother

/-- A class takes the place of another under its name and goes on with the larger numbers. -/
theorem advances_register {w : Workbench} (h : Consistent w) {i : Nat} {id known : RecordId}
    {count : MemberSort → Int}
    (hfind : w.session.registry.find? (.str (classNameOf i)) = some known)
    (hcounts : Counts (w.records.get id) (classNameOf i) count) :
    ∃ w', (registerClass id).result w = (.ok (), w') ∧ Advances w [] w' ∧
      Raises w.records w'.records := by
  obtain ⟨-, knownCount, hknown, -⟩ := h.counts hfind
  have hother : ∀ other, w.session.registry.find? (.str (classNameOf i)) = some other →
      ∃ otherCount, Counts (w.records.get other) (classNameOf i) otherCount :=
    fun other hother => Option.some.inj (hfind.symm.trans hother) ▸ ⟨knownCount, hknown⟩
  obtain ⟨r, count', hresult, ht, hr, hcounts', hle⟩ := result_registerClass h.typed hcounts hother
  obtain ⟨knownCount', hknown', -⟩ := hr known _ _ hknown
  have hraised : Advances w [] { w with records := r } := advances_of_raises h rfl ht hr
  have hentered := advances_enter (w := { w with records := r }) hraised.consistent hfind hknown'
    hcounts' (hle known _ hfind hknown')
  exact ⟨_, hresult, hraised.trans hentered, hr⟩

/-- A class that members may be named for is registered, or it is not found. -/
private theorem resolve_current {w : Workbench} (h : Consistent w) {ref : ClassRef}
    (hc : NamingOp.Current w ref) :
    (∃ id i, resolve w ref = .ok id ∧ w.session.registry.find? (.str (classNameOf i)) = some id) ∨
      ∃ f, resolve w ref = .error f := by
  cases ref with
  | record id =>
    obtain ⟨key, -, hfind⟩ := hc
    obtain ⟨i, count, rfl, -, hcounts, -⟩ := h.registered key id hfind
    left
    exact ⟨id, i, by rw [resolve, hcounts.sort], hfind⟩
  | named v =>
    obtain ⟨name, rfl⟩ := hc
    cases hfind : w.session.registry.find? (.str name) with
    | none =>
      right
      exact ⟨.unknownClass (Text.quoted name), by rw [resolve, findClass_str, hfind]⟩
    | some id =>
      -- a text that is a key is one of the allocated names
      obtain ⟨i, count, hkey, -⟩ := h.registered _ id hfind
      obtain rfl := Key.str.inj hkey
      left
      exact ⟨id, i, by rw [resolve, findClass_str, hfind], hfind⟩

/-- The name of a member is used up by its allocation. -/
private theorem advances_nextNameOf {w : Workbench} (h : Consistent w) {i : Nat} {id : RecordId}
    {count : MemberSort → Int} (hfind : w.session.registry.find? (.str (classNameOf i)) = some id)
    (hcounts : Counts (w.records.get id) (classNameOf i) count) {s : MemberSort}
    (hpos : 0 ≤ count s) :
    Advances w [.ofMember s i (count s).toNat]
      { w with records := w.records.assign id s.counter (.int (count s + 1)) } := by
  have hle : count s ≤ count s + 1 := by omega
  have hraised : Advances w []
      { w with records := w.records.assign id s.counter (.int (count s + 1)) } :=
    advances_of_raises h rfl (typed_assign h.typed hcounts s _) (raises_assign hcounts hle)
  refine { hraised with free := ?_, used := ?_, nodup := by simp }
  · intro n hn
    obtain rfl := List.mem_singleton.1 hn
    rintro ⟨other, count', hother, hcounts', hlt⟩
    -- the class is found under its name, so it counts as it did
    obtain rfl := Option.some.inj (hfind.symm.trans hother)
    obtain ⟨-, rfl⟩ := hcounts.unique hcounts'
    omega
  · intro n hn
    obtain rfl := List.mem_singleton.1 hn
    refine ⟨id, _, hfind, counts_assign hcounts s _, ?_⟩
    rw [setCount, if_pos rfl]
    omega

/-! ## Runs -/

/-- An operation that succeeds with the texts of some names. -/
private theorem advances_of_ok {op : NamingOp} {w v : Workbench} {names : List IssuedName}
    (hr : op.perform.result w = (.ok (names.map IssuedName.text), v)) (ha : Advances w names v) :
    ∃ names, op.issues w = names.map IssuedName.text ∧ Advances w names (op.after w) := by
  refine ⟨names, ?_, ?_⟩
  · rw [NamingOp.issues, hr]
  · rw [NamingOp.after, hr]
    exact ha

/-- An operation that fails. -/
private theorem advances_of_error {op : NamingOp} {w v : Workbench} {f : Failure}
    (hr : op.perform.result w = (.error f, v)) (ha : Advances w [] v) :
    ∃ names, op.issues w = names.map IssuedName.text ∧ Advances w names (op.after w) := by
  refine ⟨[], ?_, ?_⟩
  · rw [NamingOp.issues, hr]
    rfl
  · rw [NamingOp.after, hr]
    exact ha

/-- The allocation of the name of a member. -/
theorem advances_memberName {w : Workbench} (h : Consistent w) {ref : ClassRef}
    (hc : NamingOp.Current w ref) (s : MemberSort) :
    ∃ names, (NamingOp.memberName s ref).issues w = names.map IssuedName.text ∧
      Advances w names ((NamingOp.memberName s ref).after w) := by
  obtain ⟨id, i, hid, hfind⟩ | ⟨f, hf⟩ := resolve_current h hc
  · obtain ⟨-, count, hcounts, hpos⟩ := h.counts hfind
    have hresult := result_nextNameOf (s := s) hid hcounts
    rw [memberText_classNameOf i s (hpos s)] at hresult
    by_cases hlt : (count s).natAbs < 10 ^ Number.maxDigits
    · rw [if_pos hlt] at hresult
      refine advances_of_ok ?_ (advances_nextNameOf h hfind hcounts (hpos s))
      rw [NamingOp.perform, Action.result_bind, hresult]
      rfl
    · -- a number too long to be written is not raised either
      rw [if_neg hlt] at hresult
      have hperform : (NamingOp.memberName s ref).perform.result w = (.error (.tooLong ⟨⟩), w) := by
        rw [NamingOp.perform, Action.result_bind, hresult]
      exact advances_of_error hperform (Advances.refl h)
  · have hperform : (NamingOp.memberName s ref).perform.result w = (.error f, w) := by
      rw [NamingOp.perform, Action.result_bind, result_nextNameOf_error hf]
    exact advances_of_error hperform (Advances.refl h)

/-- A new class issues the name that was allocated for it, also if it has to be refused. -/
theorem advances_newClass {w : Workbench} (h : Consistent w) (parent? : Option RecordId) :
    ∃ names, (NamingOp.newClass parent?).issues w = names.map IssuedName.text ∧
      Advances w names ((NamingOp.newClass parent?).after w) := by
  have hallocated := advances_allocated h
  have hresult := result_newClass parent? w
  cases hbuild : buildClass w.allocated.records (.str (classNameOf w.session.classCount)) parent?
      (.int 0) (.int 0) with
  | error f =>
    -- the name is used up without being issued
    rw [hbuild] at hresult
    have hperform : (NamingOp.newClass parent?).perform.result w = (.error f, w.allocated) := by
      rw [NamingOp.perform, Action.result_bind, hresult]
    exact advances_of_error hperform hallocated.drop
  | ok built =>
    obtain ⟨c, records⟩ := built
    rw [hbuild] at hresult
    obtain ⟨-, ht, hr, hcounts⟩ := counts_buildClass (f := fun _ => 0)
      hallocated.consistent.typed hbuild
    have hadded : Advances w.allocated [] { w.allocated with records := records } :=
      advances_of_raises hallocated.consistent rfl ht hr
    have hfind : w.allocated.session.registry.find? (.str (classNameOf w.session.classCount)) =
        some ⟨w.records.all.size⟩ := by
      rw [find?_allocated, if_pos rfl]
    -- the class takes the place of the one that was registered with its name
    obtain ⟨w', hregister, hregistered, hraised⟩ :=
      advances_register (w := { w.allocated with records := records }) hadded.consistent hfind hcounts
    obtain ⟨count', hcounts', -⟩ := hraised c _ _ hcounts
    have hname : w'.records.nameOf c = .str (classNameOf w.session.classCount) := hcounts'.name
    refine advances_of_ok ?_ (hallocated.trans (hadded.trans hregistered))
    simp only [NamingOp.perform, Action.result_bind, hresult, hregister, Action.result_pure,
      Action.result_look, hname, written_str]
    rfl

/-- One operation of a run. -/
theorem advances_after {w : Workbench} (h : Consistent w) {op : NamingOp} (ha : op.Allowed w) :
    ∃ names, op.issues w = names.map IssuedName.text ∧ Advances w names (op.after w) := by
  cases op with
  | className =>
    refine advances_of_ok ?_ (advances_allocated h)
    rw [NamingOp.perform, Action.result_bind, result_nextClassName]
    rfl
  | newClass parent? => exact advances_newClass h parent?
  | construct name parent? methodCount fieldCount =>
    cases hbuild : buildClass w.records (.str name) parent? (.int methodCount) (.int fieldCount) with
    | error f =>
      have hperform : (NamingOp.construct name parent? methodCount fieldCount).perform.result w =
          (.error f, w) := by
        rw [NamingOp.perform, Action.result_bind, Action.result_look, hbuild]
      exact advances_of_error hperform (Advances.refl h)
    | ok built =>
      obtain ⟨c, records⟩ := built
      obtain ⟨-, ht, hr, -⟩ :=
        counts_buildClass (f := MemberSort.numbered methodCount fieldCount) h.typed hbuild
      have hperform : (NamingOp.construct name parent? methodCount fieldCount).perform.result w =
          (.ok (List.map IssuedName.text []), { w with records := records }) := by
        rw [NamingOp.perform, Action.result_bind, Action.result_look, hbuild]
        rfl
      exact advances_of_ok hperform (advances_of_raises h rfl ht hr)
  | setParent id parent? =>
    have hsame : Advances w [] { w with records := w.records.setParent id parent? } :=
      advances_of_raises h rfl (typed_setParent h.typed id parent?) (raises_setParent _ _ _)
    have hperform : (NamingOp.setParent id parent?).perform.result w =
        (.ok (List.map IssuedName.text []), { w with records := w.records.setParent id parent? }) := rfl
    exact advances_of_ok hperform hsame
  | register id =>
    obtain ⟨key, hmem, hkey⟩ := ha
    obtain ⟨known, hfind⟩ := Registry.exists_find?_of_mem hmem
    obtain ⟨i, knownCount, rfl, -, hknown, -⟩ := h.registered key known hfind
    rcases h.typed id with ⟨name, count, hcounts⟩ | ⟨m, hm⟩
    · -- the key of a text determines the text
      have hname : name = classNameOf i := by
        rw [Records.nameOf, hcounts.name] at hkey
        exact Key.str.inj (Option.some.inj hkey)
      obtain ⟨w', hregister, hregistered, -⟩ := advances_register h hfind (hname ▸ hcounts)
      have hperform : (NamingOp.register id).perform.result w =
          (.ok (List.map IssuedName.text []), w') := by
        rw [NamingOp.perform, Action.result_bind, hregister]
        rfl
      exact advances_of_ok hperform hregistered
    · -- no number of a next method: no class is replaced by such a record
      have hne : known ≠ id := by
        rintro rfl
        have hmethod := hknown.count .method
        rw [MemberSort.counter, hm] at hmethod
        cases hmethod
      have hperform : (NamingOp.register id).perform.result w = (.error (.misuse m), w) := by
        simp only [NamingOp.perform, registerClass, Action.result_bind, Action.result_look, keyOf, hkey,
          hfind, ne_eq, hne, not_false_eq_true, if_true, result_takeOver_error hm]
      exact advances_of_error hperform (Advances.refl h)
  | memberName s ref => exact advances_memberName h ha s

/-- A session that has not allocated any name is consistent. -/
private theorem Fresh.consistent {w : Workbench} (h : Fresh w) : Consistent w where
  typed := h.typed
  registered key id hfind := by
    rw [h.registry] at hfind
    exact nomatch hfind

/-- What a run issues are the texts of names that it uses up. -/
theorem advances_of_run {start w : Workbench} {issued : List String} (h : Fresh start)
    (hrun : NamingRun start issued w) :
    ∃ names, issued = names.map IssuedName.text ∧ Advances start names w := by
  -- on the run; what it has issued is used up, so the next operation issues other names
  induction hrun with
  | nil => exact ⟨[], rfl, Advances.refl h.consistent⟩
  | snoc _ hallowed ih =>
    obtain ⟨names, rfl, hadvances⟩ := ih
    obtain ⟨names', hissues, hadvances'⟩ := advances_after hadvances.consistent hallowed
    refine ⟨names ++ names', ?_, hadvances.trans hadvances'⟩
    rw [hissues, List.map_append]

/-- In a run from a fresh session, of whatever length and order, no name is issued twice: no
    two classes, no two methods and no two fields get the same name, not even those of
    different classes, and no two of different sorts do.  A text that is not registered is
    refused and changes nothing. -/
theorem issued_nodup {start w : Workbench} {issued : List String} (h : Fresh start)
    (hrun : NamingRun start issued w) :
    issued.Nodup ∧
      ∀ (s : MemberSort) (name : String), w.session.registry.find? (.str name) = none →
        (nextNameOf s (.named (.str name))).result w =
          (.error (.unknownClass (Text.quoted name)), w) := by
  constructor
  · obtain ⟨names, rfl, hadvances⟩ := advances_of_run h hrun
    exact List.Pairwise.map _ (fun _ _ hne heq => hne (text_injective heq)) hadvances.nodup
  · intro s name hnone
    apply result_nextNameOf_error
    rw [resolve, findClass_str, hnone]

/-- A class that takes the place of an allocated one goes on with its own number where that is
    larger, and the run issues three different names. -/
theorem issued_nodup_takenOver :
    ∃ w, NamingRun (.unused default { generator := .script [] 0 })
        ["Class_0", "class_0_method_0", "class_0_method_5"] w ∧
      ["Class_0", "class_0_method_0", "class_0_method_5"].Nodup := by
  have r₁ : NamingRun (.unused default { generator := .script [] 0 }) ["Class_0"] _ :=
    NamingRun.nil.step .className trivial (by decide +kernel)
  have r₂ : NamingRun _ ["Class_0", "class_0_method_0"] _ :=
    r₁.step (.memberName .method (.named (.str "Class_0"))) ⟨_, rfl⟩ (by decide +kernel)
  have r₃ : NamingRun _ ["Class_0", "class_0_method_0"] _ :=
    r₂.step (.construct "Class_0" none 5 0) trivial (by decide +kernel)
  have r₄ : NamingRun _ ["Class_0", "class_0_method_0"] _ :=
    r₃.step (.register ⟨1⟩) ⟨.str "Class_0", by decide +kernel, by decide +kernel⟩
      (by decide +kernel)
  have r₅ : NamingRun _ ["Class_0", "class_0_method_0", "class_0_method_5"] _ :=
    r₄.step (.memberName .method (.record ⟨1⟩))
      ⟨.str "Class_0", by decide +kernel, by decide +kernel⟩ (by decide +kernel)
  exact ⟨_, r₅, (issued_nodup (fresh_unused _ _) r₅).1⟩

end JavaFragments.Session
