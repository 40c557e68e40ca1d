import JavaFragments.Fragment.Lineage
import JavaFragments.Proofs.Records.Line

/-! # Ancestors of classes

The ancestors of a class are the line from its parent on, and there are none exactly if that line
does not end.  The walk ends either way, and the names of the classes play no part in it:

* `climb_eq_ancestors`   a walk takes no more steps than there are records
* `climb_rename`         names play no part
* `ancestors_cases`      the ancestors of a class, or where the walk comes round
* `buildClass_cases`     a class is added exactly if the line from its parent on ends
* `ancestors_iff_line`   all of this about one class -/

namespace JavaFragments.Records

open Fragment

/-! ## Names -/

/-- The records with other names. -/
def rename (r : Records) (f : RecordId → Value) : Records :=
  ⟨r.all.mapIdx fun i d => { d with name := f ⟨i⟩ }⟩

/-- A record with another name is the same in all the rest. -/
theorem get_rename (r : Records) (f : RecordId → Value) (id : RecordId) :
    ((r.rename f).get id).sort = (r.get id).sort ∧
      ((r.rename f).get id).parent? = (r.get id).parent? := by
  simp only [get, rename, Array.getD_eq_getD_getElem?, Array.getElem?_mapIdx]
  cases r.all[id.index]? <;> exact ⟨rfl, rfl⟩

/-- A class with another name has the same parent. -/
private theorem parent_rename {r : Records} (h : r.WellParented) (f : RecordId → Value)
    {id : RecordId}
    (hid : r.IsClass id) : ((r.rename f).get id).parent = .ok (place (r.parentOf id)) := by
  rw [Record.parent, (get_rename r f id).1, (get_rename r f id).2]
  exact h.parent id hid

/-- Names play no part in a climb. -/
theorem climb_rename {r : Records} (h : r.WellParented) (f : RecordId → Value)
    {self : Option RecordId} {fuel : Nat} {p : Option RecordId}
    (hp : ∀ id, p = some id → r.IsClass id) {passed : List RecordId}
    (hpassed : ∀ a ∈ passed, r.IsClass a) :
    (r.rename f).climb self fuel passed (place p) = r.climb self fuel passed (place p) := by
  -- on the steps of the climb: only sorts and parents are looked at
  induction fuel generalizing p passed with
  | zero => cases p <;> rfl
  | succ fuel ih =>
    cases p with
    | none => rfl
    | some id =>
      have hid : r.IsClass id := hp id rfl
      have hpassed' : ∀ a ∈ passed, (r.rename f).IsClass a :=
        fun a ha => (get_rename r f a).1.trans (hpassed a ha)
      have hpush : ∀ a ∈ passed ++ [id], r.IsClass a := by
        intro a ha
        rcases List.mem_append.1 ha with ha | ha
        · exact hpassed a ha
        · exact List.mem_singleton.1 ha ▸ hid
      show (r.rename f).climb self (fuel + 1) passed (.record id) =
        r.climb self (fuel + 1) passed (.record id)
      rw [climb, climb, hasPassed_of_classes hpassed', hasPassed_of_classes hpassed,
        parent_rename h f hid, h.parent id hid]
      cases decide (self = some id ∨ id ∈ passed) with
      | true => rfl
      | false => exact ih (fun q hq => h.classes id q hid hq) hpush

/-! ## The ancestors of a class -/

/-- The ancestors are what a climb from the parent comes to. -/
private theorem ancestors_eq_climb {r : Records} (h : r.WellParented) {c : RecordId}
    (hc : r.IsClass c) :
    r.ancestors c = r.climb (some c) r.climbLimit [] (place (r.parentOf c)) := by
  rw [ancestors, h.parent c hc]

/-- A walk takes no more steps than there are records. -/
theorem climb_eq_ancestors {r : Records} (h : r.WellParented) {c : RecordId} (hc : r.IsClass c)
    {fuel : Nat} (hfuel : r.all.size < fuel) :
    r.climb (some c) fuel [] (place (r.parentOf c)) = r.ancestors c := by
  -- both climbs have steps for all records, which is as far as a climb can go
  have hleast : r.all.size < r.all.size + 1 + ([] : List RecordId).length := by simp
  have hlimit : r.all.size + 1 ≤ r.climbLimit := Nat.le_succ _
  rw [ancestors_eq_climb h hc, climb_of_le (Passed.nil r) hleast hfuel,
    climb_of_le (Passed.nil r) hleast hlimit]

/-- Names play no part in the ancestors of a class. -/
theorem ancestors_rename {r : Records} (h : r.WellParented) {c : RecordId} (hc : r.IsClass c)
    (f : RecordId → Value) : (r.rename f).ancestors c = r.ancestors c := by
  have hlimit : (r.rename f).climbLimit = r.climbLimit := by simp [climbLimit, rename]
  rw [ancestors_eq_climb h hc, ancestors, parent_rename h f hc, hlimit]
  exact climb_rename h f (fun id hid => h.classes c id hc hid) (List.forall_mem_nil _)

/-- The line from the parent of a class on is all of its ancestors. -/
theorem ancestors_of_line {r : Records} (h : r.WellParented) {c : RecordId} (hc : r.IsClass c)
    {ids : List RecordId} (hline : r.Line (r.parentOf c) ids none) :
    r.ancestors c = .ok ids ∧ (c :: ids).Nodup := by
  have hnodup : (c :: ids).Nodup := (Line.up hline).nodup
  -- nothing on the line has been passed, as a line that ends has no class twice
  have hnew : ∀ id ∈ ids, some c ≠ some id ∧ id ∉ ([] : List RecordId) := by
    intro id hid
    refine ⟨fun e => ?_, List.not_mem_nil⟩
    exact (List.nodup_cons.1 hnodup).1 (Option.some.inj e ▸ hid)
  have hclimb := climb_line h hline (fun id hid => h.classes c id hc hid) (List.forall_mem_nil _) hnew
    (Nat.le_max_left ids.length (r.all.size + 1))
  rw [climb_eq_ancestors h hc (Nat.lt_of_lt_of_le (Nat.lt_succ_self _) (Nat.le_max_right ..))]
    at hclimb
  exact ⟨hclimb, hnodup⟩

/-- The ancestors of a class are a line that ends, or the walk comes round to the class itself
    or to one that it has passed. -/
theorem ancestors_cases {r : Records} (h : r.WellParented) {c : RecordId} (hc : r.IsClass c) :
    (∃ ids, r.ancestors c = .ok ids ∧ r.Line (r.parentOf c) ids none) ∨
      ∃ ids t, r.ancestors c = .error (.cycle t) ∧ r.IsClass t ∧
        r.Line (r.parentOf c) ids (some t) ∧ (c :: ids).Nodup ∧ t ∈ c :: ids := by
  rw [ancestors_eq_climb h hc]
  have hfuel : r.all.size < r.climbLimit + ([] : List RecordId).length := by
    simp only [climbLimit, List.length_nil]
    omega
  rcases climb_cases h (fun id hid => h.classes c id hc hid) (List.forall_mem_nil _) (Passed.nil r) hfuel with
    hends | ⟨ids, t, hclimb, ht, hline, hnodup, hself, hround⟩
  · exact Or.inl hends
  · refine Or.inr ⟨ids, t, hclimb, ht, hline, List.nodup_cons.2 ⟨fun hmem => ?_, hnodup⟩, ?_⟩
    · exact hself c hmem rfl
    · rcases hround with heq | hmem
      · exact Option.some.inj heq ▸ List.mem_cons_self
      · exact List.mem_cons_of_mem c hmem

/-- A class that comes round is reported by the names of both ends. -/
theorem lineFailure_cycle {r : Records} (h : r.WellParented) (name : String) {t : RecordId}
    (ht : r.IsClass t) :
    ∃ through, r.nameOf t = .str through ∧
      lineFailure r (.str name) (.cycle t) = .ownAncestor name through := by
  obtain ⟨through, hname⟩ := h.name t ht
  exact ⟨through, hname, by rw [lineFailure, hname]; rfl⟩

/-- A class is added exactly if the line from its parent on ends. -/
theorem buildClass_cases {r : Records} (h : r.WellParented) {p : Option RecordId}
    (hp : ∀ id, p = some id → r.IsClass id) (name : String) (methodCount fieldCount : Value) :
    (r.Ends p ∧ buildClass r (.str name) p methodCount fieldCount =
        .ok (r.add (.ofClass (.str name) (place p) methodCount fieldCount))) ∨
      (¬ r.Ends p ∧ ∃ through, buildClass r (.str name) p methodCount fieldCount =
        .error (.ownAncestor name through)) := by
  have hfuel : r.all.size < r.climbLimit + ([] : List RecordId).length := by
    simp only [climbLimit, List.length_nil]
    omega
  have hbelow : r.ancestorsBelow (place p) = r.climb none r.climbLimit [] (place p) := rfl
  have hpassed : ∀ a ∈ ([] : List RecordId), r.IsClass a ∧ (none : Option RecordId) ≠ some a :=
    List.forall_mem_nil _
  rcases climb_cases h hp hpassed (Passed.nil r) hfuel with
    ⟨ids, hclimb, hline⟩ | ⟨ids, t, hclimb, ht, hline, hnodup, -, hround⟩
  · left
    refine ⟨⟨ids, hline⟩, ?_⟩
    simp only [buildClass, hbelow, hclimb]
  · right
    constructor
    · -- a line that ended would have been climbed to its end
      rintro ⟨all, hall⟩
      have hnew : ∀ id ∈ all, (none : Option RecordId) ≠ some id ∧ id ∉ ([] : List RecordId) :=
        fun id _ => ⟨(Option.some_ne_none id).symm, List.not_mem_nil⟩
      have hends := climb_line h hall hp (List.forall_mem_nil _) hnew
        (Nat.le_max_left all.length r.climbLimit)
      rw [climb_of_le (Passed.nil r) hfuel (Nat.le_max_right ..), hclimb] at hends
      exact nomatch hends
    · obtain ⟨through, -, hfailure⟩ := lineFailure_cycle h name ht
      exact ⟨through, by simp only [buildClass, hbelow, hclimb, hfailure]⟩

/-- A heap of classes, each named by a text and with a class of the heap for a parent or none,
    is well parented, whatever lines and cycles the parents form. -/
theorem wellParented_of_classes {r : Records}
    (h : ∀ d ∈ r.all, ∃ name parent, d.sort = .classDecl ∧ d.name = .str name ∧
      d.parent? = some (place parent) ∧ ∀ p, parent = some p → p.index < r.all.size) :
    r.WellParented := by
  -- every record of the heap is one of the classes
  have hget : ∀ id, id.index < r.all.size → ∃ name parent, (r.get id).sort = .classDecl ∧
      (r.get id).name = .str name ∧ (r.get id).parent? = some (place parent) ∧
      ∀ p, parent = some p → p.index < r.all.size := by
    intro id hid
    have hmem : r.get id ∈ r.all := by
      simp [get, Array.getD_eq_getD_getElem?, hid]
    exact h _ hmem
  have hparent : ∀ id parent, (r.get id).parent? = some (place parent) → r.parentOf id = parent := by
    intro id parent hparent
    rw [parentOf, hparent]
    cases parent <;> rfl
  -- names, places of parents, and parents that are classes
  refine ⟨fun id hid => ?_, fun id hid => ?_, fun id p hid hp => ?_⟩
  · obtain ⟨name, -, -, hname, -⟩ := hget id hid.lt_size
    exact ⟨name, hname⟩
  · obtain ⟨-, parent, -, -, hplace, -⟩ := hget id hid.lt_size
    rw [Record.parent, hplace, hparent id parent hplace]
  · obtain ⟨-, parent, -, -, hplace, hin⟩ := hget id hid.lt_size
    rw [hparent id parent hplace] at hp
    obtain ⟨-, -, hsort, -⟩ := hget p (hin p hp)
    exact hsort

/-- The ancestors of a class are exactly the line from its parent on to where there is no parent,
    nearest first, and neither the class nor another one comes twice.  If that line does not
    end, the walk is given up at the first class that comes round, with the names of both.
    It ends in any case, after no more steps than there are records, and other names, equal
    ones too, would make no difference.  A class is added below a place exactly if the line
    from there on ends. -/
theorem ancestors_iff_line {r : Records} (h : r.WellParented) {c : RecordId} (hc : r.IsClass c) :
    (∀ ids, r.ancestors c = .ok ids ↔ r.Line (r.parentOf c) ids none) ∧
    (∀ ids, r.ancestors c = .ok ids →
      (c :: ids).Nodup ∧ ancestorNames r c = .ok (ids.map r.nameOf)) ∧
    (¬ r.Ends (r.parentOf c) → ∃ ids t name through,
      r.ancestors c = .error (.cycle t) ∧ r.Line (r.parentOf c) ids (some t) ∧
      (c :: ids).Nodup ∧ t ∈ c :: ids ∧ r.nameOf c = .str name ∧ r.nameOf t = .str through ∧
      ancestorNames r c = .error (.ownAncestor name through)) ∧
    (∀ fuel, r.all.size < fuel →
      r.climb (some c) fuel [] (place (r.parentOf c)) = r.ancestors c) ∧
    (∀ f, (r.rename f).ancestors c = r.ancestors c) ∧
    ∀ name methodCount fieldCount p, (∀ id, p = some id → r.IsClass id) →
      (r.Ends p → buildClass r (.str name) p methodCount fieldCount =
        .ok (r.add (.ofClass (.str name) (place p) methodCount fieldCount))) ∧
      ((∃ through, buildClass r (.str name) p methodCount fieldCount =
        .error (.ownAncestor name through)) ↔ ¬ r.Ends p) := by
  refine ⟨fun ids => ⟨fun hids => ?_, fun hline => (ancestors_of_line h hc hline).1⟩,
    fun ids hids => ?_, fun hends => ?_, fun fuel hfuel => climb_eq_ancestors h hc hfuel,
    ancestors_rename h hc, fun name methodCount fieldCount p hp => ?_⟩
  · -- what is returned is the line
    rcases ancestors_cases h hc with ⟨ids', hids', hline⟩ | ⟨_, t, hcycle, _⟩
    · rw [hids'] at hids
      exact Except.ok.inj hids ▸ hline
    · rw [hcycle] at hids
      exact nomatch hids
  · -- nobody comes twice in it, and its names are those returned
    rcases ancestors_cases h hc with ⟨ids', hids', hline⟩ | ⟨_, t, hcycle, _⟩
    · rw [hids'] at hids
      obtain rfl := Except.ok.inj hids
      exact ⟨(ancestors_of_line h hc hline).2, by rw [ancestorNames, hids']⟩
    · rw [hcycle] at hids
      exact nomatch hids
  · -- where it does not end, the walk has come round
    rcases ancestors_cases h hc with ⟨ids, -, hline⟩ | ⟨ids, t, hcycle, ht, hline, hnodup, hround⟩
    · exact absurd ⟨ids, hline⟩ hends
    · obtain ⟨name, hname⟩ := h.name c hc
      obtain ⟨through, hthrough, hfailure⟩ := lineFailure_cycle h name ht
      refine ⟨ids, t, name, through, hcycle, hline, hnodup, hround, hname, hthrough, ?_⟩
      rw [ancestorNames, hcycle, hname]
      exact congrArg Except.error hfailure
  · -- a new class below a place
    rcases buildClass_cases h hp name methodCount fieldCount with
      ⟨hends, hbuild⟩ | ⟨hends, through, hbuild⟩
    · refine ⟨fun _ => hbuild, ⟨fun ⟨through, hrefused⟩ => ?_, fun hnot => absurd hends hnot⟩⟩
      rw [hbuild] at hrefused
      exact nomatch hrefused
    · exact ⟨fun hends' => absurd hends' hends, fun _ => hends, fun _ => ⟨through, hbuild⟩⟩

/-- Seven classes, some with equal names: a line of three, a cycle of two with a class below
    it, and a class that is its own parent. -/
def mixedFamily : Records where
  all := #[.ofClass (.str "A") (place none) (.int 0) (.int 0),
    .ofClass (.str "A") (place (some ⟨0⟩)) (.int 0) (.int 0),
    .ofClass (.str "A") (place (some ⟨1⟩)) (.int 0) (.int 0),
    .ofClass (.str "C") (place (some ⟨4⟩)) (.int 0) (.int 0),
    .ofClass (.str "C") (place (some ⟨3⟩)) (.int 0) (.int 0),
    .ofClass (.str "D") (place (some ⟨3⟩)) (.int 0) (.int 0),
    .ofClass (.str "E") (place (some ⟨6⟩)) (.int 0) (.int 0)]

/-- In the mixed family the line of three ends, and the class below the cycle has no ancestors. -/
theorem ancestors_iff_line_mixed :
    mixedFamily.WellParented ∧ mixedFamily.IsClass ⟨2⟩ ∧ mixedFamily.IsClass ⟨5⟩ ∧
      mixedFamily.ancestors ⟨2⟩ = .ok [⟨1⟩, ⟨0⟩] ∧ ¬ mixedFamily.Ends (some ⟨3⟩) ∧
      ancestorNames mixedFamily ⟨5⟩ = .error (.ownAncestor "D" "C") := by
  have h : mixedFamily.WellParented := by
    apply wellParented_of_classes
    intro d hd
    simp only [mixedFamily, List.mem_toArray, List.mem_cons, List.not_mem_nil, or_false] at hd
    rcases hd with rfl | rfl | rfl | rfl | rfl | rfl | rfl
    · exact ⟨"A", none, rfl, rfl, rfl, nofun⟩
    · exact ⟨"A", some ⟨0⟩, rfl, rfl, rfl, fun p hp => Option.some.inj hp ▸ by decide⟩
    · exact ⟨"A", some ⟨1⟩, rfl, rfl, rfl, fun p hp => Option.some.inj hp ▸ by decide⟩
    · exact ⟨"C", some ⟨4⟩, rfl, rfl, rfl, fun p hp => Option.some.inj hp ▸ by decide⟩
    · exact ⟨"C", some ⟨3⟩, rfl, rfl, rfl, fun p hp => Option.some.inj hp ▸ by decide⟩
    · exact ⟨"D", some ⟨3⟩, rfl, rfl, rfl, fun p hp => Option.some.inj hp ▸ by decide⟩
    · exact ⟨"E", some ⟨6⟩, rfl, rfl, rfl, fun p hp => Option.some.inj hp ▸ by decide⟩
  have hcycle : mixedFamily.ancestors ⟨5⟩ = .error (.cycle ⟨3⟩) := rfl
  have hends : ¬ mixedFamily.Ends (some ⟨3⟩) := by
    rintro ⟨ids, hline⟩
    have hids := ((ancestors_iff_line h (c := ⟨5⟩) rfl).1 ids).2 hline
    rw [hcycle] at hids
    exact nomatch hids
  obtain ⟨_, t, name, through, ht, -, -, -, hname, hthrough, hnames⟩ :=
    (ancestors_iff_line h (c := ⟨5⟩) rfl).2.2.1 hends
  obtain rfl : ⟨3⟩ = t := by
    rw [hcycle] at ht
    injection ht with ht
    injection ht
  obtain rfl : "D" = name := Value.str.inj hname
  obtain rfl : "C" = through := Value.str.inj hthrough
  exact ⟨h, rfl, rfl, ((ancestors_iff_line h (c := ⟨2⟩) rfl).1 _).2 (.up (.up (.here none))), hends, hnames⟩

end JavaFragments.Records
