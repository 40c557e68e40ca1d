import JavaFragments.Fragment.Call
import JavaFragments.Fragment.Lineage
import JavaFragments.Fragment.Statement
import JavaFragments.Proofs.Effects.FailsFirst
import JavaFragments.Record.View
import JavaFragments.Value.Order

/-! # Refusals

A `Failure` is a refusal if it is about what the caller asks for: a class that was not
allocated, a class above itself, a type that has no spelling or no literals, or something that
is looked up and is no key.  All other failures are about how a thing is written or drawn.

* `spares_…`                       what refuses nothing, as most functions do
* `failsFirst_drawValue`           a literal is refused before anything is drawn for it
* `failsFirst_variableDeclaration` so is a declaration, though its type is written last -/

namespace JavaFragments

open Number

/-- Something is looked up and is no key. -/
def Misuse.IsNoKey : Misuse → Prop
  | notAKey _ => True
  | _ => False

/-- A walk to the ancestors of a class fails because something is looked up and is no key. -/
def AncestryFault.IsNoKey : AncestryFault → Prop
  | cycle _ => False
  | misuse m => m.IsNoKey

namespace Fragment

open JavaFragments.Random

/-- What the caller asks for is refused. -/
def Failure.IsRefusal : Failure → Prop
  | unknownClass _ | ownAncestor _ _ | noJavaType _ | noLiteral _ => True
  | misuse m => m.IsNoKey
  | _ => False

/-! ## Values and records -/

section Values

/-- A value that should be whole is no key. -/
private theorem spares_whole (bound : Bound) (v : Value) :
    Spares Misuse.IsNoKey (v.whole bound) := by
  cases v with
  | bool b => exact .ok _
  | int n => exact .ok n
  -- a number that is not finite or not whole does not do
  | float x =>
    cases x with
    | nan payload => exact .error id
    | signed negative m =>
      simp only [Value.whole]
      split
      · exact .error id
      · split
        · exact .error id
        · exact .ok _
  | str s =>
    simp only [Value.whole]
    split <;> exact .error id
  | null => exact .error id
  | list vs => exact .error id
  | kind k => exact .error id

/-- Neither is a value that one is added to. -/
private theorem spares_next (i : Increment) (v : Value) : Spares Misuse.IsNoKey (v.next i) := by
  cases v with
  | list vs =>
    simp only [Value.next]
    split <;> exact .error id
  | bool b => exact .ok _
  | int n => exact .ok _
  | float x => exact .ok _
  | str s => exact .error id
  | null => exact .error id
  | kind k => exact .error id

/-- Values that cannot be compared are no keys. -/
theorem spares_holds (c : Comparison) (a b : Value) : Spares Misuse.IsNoKey (Value.holds c a b) := by
  unfold Value.holds
  -- values of different types have no order
  split
  · exact .ok _
  · exact .error id

/-- The larger one is told by one comparison. -/
theorem spares_larger (a b : Value) : Spares Misuse.IsNoKey (a.larger b) := by
  refine (spares_holds .greater b a).bind fun greater => ?_
  exact .ok _

/-- An attribute that a record has not is not looked up as a key. -/
private theorem spares_get (d : Record) (a : Attribute) : Spares Misuse.IsNoKey (d.get a) := by
  unfold Record.get
  split
  · exact .ok _
  · exact .error id

/-- Neither is the parent of a record without one. -/
private theorem spares_parent (d : Record) : Spares Misuse.IsNoKey d.parent := by
  unfold Record.parent
  split
  · exact .ok _
  · exact .error id

/-- What is in a place may have no name. -/
private theorem spares_slotName (nameOf : RecordId → Value) (what : Slot) :
    Spares Misuse.IsNoKey (what.name nameOf) := by
  unfold Slot.name
  split
  · exact .ok _
  · exact .ok _
  · exact .error id

/-- Members may be no list, or one of them may have no name. -/
private theorem spares_names (nameOf : RecordId → Value) (ms : Members) :
    Spares Misuse.IsNoKey (ms.names nameOf) := by
  unfold Members.names
  split
  · exact .mapM (spares_slotName nameOf) _
  · split
    · exact .ok _
    · exact .error id
  · exact .error id

/-- A member cannot be put into what is no list. -/
theorem spares_push (id : RecordId) (ms : Members) : Spares Misuse.IsNoKey (ms.push id) := by
  cases ms with
  | list entries => exact .ok _
  | value v => exact .error not_false

/-- A parent may have no name either. -/
private theorem spares_parentName (nameOf : RecordId → Value) (what : Slot) :
    Spares Misuse.IsNoKey (what.parentName nameOf) := by
  unfold Slot.parentName
  split
  · exact .ok _
  · exact (spares_slotName nameOf _).map some

/-- A record can be shown, or has not what is shown of it. -/
theorem spares_view (r : Records) (id : RecordId) : Spares Misuse.IsNoKey (r.view id) := by
  unfold Records.view
  simp only
  split
  · refine (spares_parent _).bind fun parent => ?_
    refine (spares_parentName _ parent).bind fun parentName => ?_
    refine (spares_names _ _).bind fun fields => ?_
    refine (spares_names _ _).bind fun methods => ?_
    refine (spares_get _ .methodCount).bind fun methodCount => ?_
    refine (spares_get _ .fieldCount).bind fun fieldCount => ?_
    exact .ok _
  · refine (spares_get _ .returnType).bind fun returnType => ?_
    refine (spares_get _ .body).bind fun body => ?_
    refine (spares_names _ _).bind fun params => ?_
    refine (spares_get _ .owner).bind fun owner => ?_
    refine (spares_get _ .throws).bind fun throws => ?_
    exact .ok _
  · refine (spares_get _ .type).bind fun type => ?_
    refine (spares_get _ .initialValue).bind fun initialValue => ?_
    exact .ok _
  · refine (spares_get _ .type).bind fun type => ?_
    refine (spares_get _ .declared).bind fun declared => ?_
    refine (spares_get _ .available).bind fun available => ?_
    exact .ok _

/-- Two entries are compared if both are records. -/
private theorem spares_slotSame {sameRecord : RecordId → RecordId → Except Misuse Bool}
    (h : ∀ a b, Spares Misuse.IsNoKey (sameRecord a b)) (x y : Slot) :
    Spares Misuse.IsNoKey (x.same sameRecord y) := by
  unfold Slot.same
  split
  · exact h _ _
  · exact .ok _
  · exact .ok _

/-- Entries are compared until two of them differ. -/
private theorem spares_sameEntries {sameRecord : RecordId → RecordId → Except Misuse Bool}
    (h : ∀ a b, Spares Misuse.IsNoKey (sameRecord a b)) (as bs : List Slot) :
    Spares Misuse.IsNoKey (Members.sameEntries sameRecord as bs) := by
  -- on the first list; the rest is compared only if the first entries are equal
  induction as generalizing bs with
  | nil => exact .ok _
  | cons a as ih =>
    cases bs with
    | nil => exact .ok _
    | cons b bs =>
      refine (spares_slotSame h a b).bind fun same => ?_
      exact .ite (ih bs) (.ok _)

/-- Members are compared entry by entry. -/
private theorem spares_sameMembers {sameRecord : RecordId → RecordId → Except Misuse Bool}
    (h : ∀ a b, Spares Misuse.IsNoKey (sameRecord a b)) (ms ns : Members) :
    Spares Misuse.IsNoKey (ms.same sameRecord ns) := by
  unfold Members.same
  split
  · exact .ite (spares_sameEntries h _ _) (.ok _)
  · exact .ok _
  · exact .ok _

/-- Records can be compared, or are nested too deep. -/
private theorem spares_sameWithin (r : Records) (depth : Nat) (a b : RecordId) :
    Spares Misuse.IsNoKey (r.sameWithin depth a b) := by
  induction depth generalizing a b with
  | zero => exact .ite (.ok _) (.error id)
  | succ depth ih =>
    -- the sorts, the names and the attributes are compared before the parameters are
    refine .ite (.ok _) (.ite (.ok _) (.ite (.ok _) (.ite (.ok _) ?_)))
    refine (spares_sameMembers ih _ _).bind fun sameParams => ?_
    exact .ite (.ok _) (.ok _)

/-- Whether a walk has passed a record is told by comparing records. -/
private theorem spares_hasPassed (r : Records) (self : Option RecordId) (passed : List RecordId)
    (id : RecordId) : Spares Misuse.IsNoKey (r.hasPassed self passed id) :=
  .ite (.ok _) (.anyM (fun a => spares_sameWithin r _ a id) passed)

/-- A walk to the ancestors of a class looks nothing up. -/
private theorem spares_climb (r : Records) (self : Option RecordId) (fuel : Nat)
    (passed : List RecordId)
    (what : Slot) : Spares AncestryFault.IsNoKey (r.climb self fuel passed what) := by
  -- one case for each way in which a step of the walk ends
  fun_induction r.climb self fuel passed what with
  | case1 => exact .ok _
  | case2 => exact .error id
  | case3 => exact .error id
  | case4 fuel passed id m hm => exact .error (spares_hasPassed r self passed id m hm)
  | case5 => exact .error id
  | case6 fuel passed id m hm hpassed => exact .error (spares_parent _ m hm)
  | case7 fuel passed id above habove hpassed ih => exact ih

/-- What a source cannot be started with is no matter of keys. -/
theorem spares_started (s : Source) (v : Value) : Spares Misuse.IsNoKey (s.started v) := by
  unfold Source.started
  split
  · have hmove : ∀ (numbers : List Nat) (n : Int), Spares Misuse.IsNoKey (s.moveTo numbers n) := by
      intro numbers n
      unfold Source.moveTo
      split
      · exact .error id
      · exact .ok _
    -- a script is moved by a number, by a text that can be formatted, or not at all
    unfold Source.startScript
    split
    · exact .ok _
    · exact hmove _ _
    · exact hmove _ _
    · split
      · exact .error id
      · exact .ok _
    · split
      · exact .ok _
      · exact .error id
    · exact .error id
  · -- a twister refuses what has no hash
    refine Spares.bind ?_ fun seed? => ?_
    · unfold Seed.ofValue?
      split <;> first | exact .ok _ | exact .error id
    · cases seed? with
      | none => exact .ok _
      | some seed => exact .ok _

end Values

/-! ## Texts -/

section Texts

/-- A misuse is the only way in which something that may be misused fails. -/
theorem orMisuse_eq_ok {α : Type} {r : Except Misuse α} {a : α} :
    orMisuse r = .ok a ↔ r = .ok a := by
  cases r <;> simp [orMisuse]

/-- It is refused if the misuse is about a key. -/
theorem spares_orMisuse {α : Type} {r : Except Misuse α} (h : Spares Misuse.IsNoKey r) :
    Spares Failure.IsRefusal (orMisuse r) := by
  cases r with
  | ok a => exact .ok a
  | error m => exact .error (h m rfl)

/-- A value that is too long to be written is not refused. -/
theorem spares_written (v : Value) : Spares Failure.IsRefusal (written v) := by
  unfold written
  split
  · exact .ok _
  · exact .error id

/-- What is told of a class above itself is refused as such, if its name can be written. -/
private theorem exists_ownAncestor {name through : Value}
    (hf : (ownAncestor name through).IsRefusal) :
    ∃ below above, ownAncestor name through = .ownAncestor below above := by
  rw [ownAncestor] at hf ⊢
  -- the names are written first, and may be too long
  cases hname : written name with
  | error f =>
    rw [hname] at hf
    exact absurd hf (spares_written name f hname)
  | ok below =>
    cases hthrough : written through with
    | error f =>
      rw [hname, hthrough] at hf
      exact absurd hf (spares_written through f hthrough)
    | ok above => exact ⟨below, above, rfl⟩

/-- A class that is to be added is refused only as a class above itself. -/
theorem exists_ownAncestor_of_buildClass {r : Records} {name m n : Value}
    {parent? : Option RecordId} {f : Failure} (h : buildClass r name parent? m n = .error f)
    (hf : f.IsRefusal) : ∃ below above, f = .ownAncestor below above := by
  rw [buildClass] at h
  cases hbelow : r.ancestorsBelow (Records.place parent?) with
  | ok ids =>
    rw [hbelow] at h
    cases h
  | error fault =>
    rw [hbelow] at h
    obtain rfl : lineFailure r name fault = f := Except.error.inj h
    have hfault : ¬ fault.IsNoKey := spares_climb _ _ _ _ _ fault hbelow
    -- a walk finds a class above itself, or something that has no parent
    cases fault with
    | cycle through => exact exists_ownAncestor hf
    | misuse m => exact absurd hf hfault

/-- Neither is an integer that is too long. -/
private theorem spares_numeral (n : Int) : Spares Failure.IsRefusal (numeral n) := by
  unfold numeral
  split
  · exact .ok _
  · exact .error id

/-- Neither is an attribute that a record has not. -/
theorem spares_attribute (d : Record) (a : Attribute) :
    Spares Failure.IsRefusal (orMisuse (d.get a)) :=
  spares_orMisuse (spares_get d a)

/-- A callee is written with the names that it has. -/
theorem spares_calleeText (m : Record) : Spares Failure.IsRefusal (calleeText m) := by
  refine (spares_attribute m .owner).bind fun owner => ?_
  refine (spares_written owner).bind fun ownerText => ?_
  refine (spares_written m.name).bind fun nameText => ?_
  exact .ok _

/-- The type of a variable is refused only if it is no kind. -/
private theorem spares_typePrefix {d : Record} {k : Kind} (h : d.get .type = .ok (.kind k)) :
    Spares Failure.IsRefusal (typePrefix d) := by
  refine (spares_attribute d _).bind fun declared => ?_
  -- the type is not written where the variable is declared already
  cases declared.truth with
  | true => exact .ok _
  | false =>
    rw [h]
    exact .ok _

end Texts

/-! ## Draws -/

section Draws

/-- What an answer of the source fails with is no refusal. -/
theorem avoids_ask {α : Type} (answer : Source → α × Source) :
    Avoids Failure.IsRefusal (Draw.ask answer) := by
  intro s
  show Spares _ (Draw.result (Draw.ask answer) s).1
  cases h : s.fault? with
  | none =>
    rw [Draw.result_ask _ h]
    exact .ok _
  | some m =>
    rw [Draw.result_ask_of_fault _ h]
    -- a source is astray, or it has no numbers
    apply Spares.error
    unfold Source.fault? at h
    split at h <;> cases h <;> exact id

/-- A failure that is no refusal. -/
private theorem avoids_throw {α : Type} {f : Failure} (h : ¬ f.IsRefusal) :
    Avoids Failure.IsRefusal (throw f : Draw α) := fun _ => .error h

/-- An empty range is no refusal. -/
private theorem avoids_between (low high : Int) :
    Avoids Failure.IsRefusal (Draw.between low high) := by
  unfold Draw.between
  split
  · exact (avoids_ask _).bind_pure
  · apply avoids_throw
    unfold noIntegers
    -- a bound that is too long to be shown is no refusal either
    split
    · exact id
    · exact spares_numeral _ _ ‹_›
    · exact spares_numeral _ _ ‹_›
    · exact spares_numeral _ _ ‹_›

/-- Neither is an empty range below a bound. -/
private theorem avoids_upTo (high : Int) : Avoids Failure.IsRefusal (Draw.upTo high) := by
  unfold Draw.upTo
  split
  · exact avoids_ask _
  · exact avoids_throw id

/-- A value that is to be a bound of a range is whole, or it is misused. -/
private theorem avoids_whole (bound : Bound) (v : Value) :
    Avoids Failure.IsRefusal (liftM (orMisuse (v.whole bound)) : Draw Int) :=
  .lift (spares_orMisuse (spares_whole bound v))

/-- Neither is a bound that is not whole. -/
private theorem avoids_upToValue (high : Value) : Avoids Failure.IsRefusal (Draw.upToValue high) :=
  (avoids_whole .low high).bind avoids_upTo

/-- Nor is one of two bounds that is not whole. -/
private theorem avoids_within (low high : Value) :
    Avoids Failure.IsRefusal (Draw.within low high) := by
  refine (avoids_whole .low low).bind fun a => ?_
  -- without an upper bound the lower one takes its place
  split
  · exact (avoids_upTo a).bind_pure
  · exact (avoids_whole .high high).bind fun b => avoids_between a b

/-- An item of a list is never refused. -/
private theorem avoids_oneOf {α : Type} (first : α) (rest : List α) :
    Avoids Failure.IsRefusal (Draw.oneOf first rest) :=
  (avoids_ask _).bind_pure

/-- Neither are characters. -/
private theorem avoids_drawChars (length : Nat) : Avoids Failure.IsRefusal (drawChars length) := by
  induction length with
  | zero => exact .pure []
  | succ length ih =>
    refine (avoids_oneOf _ _).bind fun c => ?_
    exact ih.bind fun cs => .pure (c :: cs)

/-- An integer is not refused, but it may be too long to be written. -/
private theorem avoids_drawInteger (low high : Value) :
    Avoids Failure.IsRefusal (drawInteger low high) :=
  (avoids_within low high).bind fun n => .lift (spares_numeral n)

/-- A number may be too large. -/
private theorem avoids_drawFloat (scale : Value) : Avoids Failure.IsRefusal (drawFloat scale) := by
  refine (avoids_ask _).bind fun x => ?_
  refine (avoids_upToValue scale).bind fun n => ?_
  -- the product may have no nearest number
  split
  · exact .pure _
  · exact avoids_throw id

/-- The length of a string may be no number. -/
private theorem avoids_drawString (minLength maxLength : Value) :
    Avoids Failure.IsRefusal (drawString minLength maxLength) := by
  have hnext : Spares Failure.IsRefusal (orMisuse (maxLength.next .sum)) :=
    spares_orMisuse (spares_next .sum maxLength)
  refine (Avoids.lift hnext).bind fun high => ?_
  refine (avoids_within minLength high).bind fun length => ?_
  exact (avoids_drawChars length.toNat).bind_pure

/-- A kind without literals is refused at once, and no other kind is refused. -/
private theorem failsFirst_drawLiteral (s : Settings) (k : Kind) :
    FailsFirst Failure.IsRefusal (drawLiteral s k) := by
  -- nothing is refused for the kinds that have literals
  cases k with
  | int => exact (avoids_drawInteger _ _).leaves
  | long => exact (avoids_drawInteger _ _).leaves
  | float => exact (avoids_drawFloat _).leaves
  | bool => exact (avoids_oneOf _ _).leaves
  | char => exact (avoids_oneOf _ _).bind_pure.leaves
  | string => exact (avoids_drawString _ _).leaves
  | void => exact (Keeps.lift _).failsFirst

/-- A literal is refused before anything is drawn for it. -/
theorem failsFirst_drawValue (s : Settings) (type : Value) :
    FailsFirst Failure.IsRefusal (drawValue s type) :=
  (Keeps.lift _).bind_failsFirst fun k => failsFirst_drawLiteral s k

/-- A random kind is never refused. -/
theorem avoids_drawKind (s : Settings) (allowVoid : Option Bool) :
    Avoids Failure.IsRefusal (drawKind s allowVoid) :=
  avoids_oneOf _ _

/-- The number in the name of a variable may be too long. -/
theorem avoids_drawVarName (s : Settings) (methodName : String) :
    Avoids Failure.IsRefusal (drawVarName s methodName) := by
  refine (avoids_upToValue _).bind fun n => ?_
  exact (Avoids.lift (spares_numeral n)).bind_pure

/-- A returned value is refused before anything is drawn for it. -/
theorem failsFirst_defaultReturn (s : Settings) (type : Value) :
    FailsFirst Failure.IsRefusal (defaultReturn s type) := by
  unfold defaultReturn
  -- nothing is drawn for a method without a result
  split
  · exact (Keeps.pure _).failsFirst
  · exact (failsFirst_drawValue s _).bind_pure

/-- A value that is taken for a kind is one. -/
theorem kindOf_eq_ok {v : Value} {failure : String → Failure} {k : Kind}
    (h : kindOf v failure = .ok k) : v = .kind k := by
  -- what is refused is described, and the description may be too long
  have refused : ∀ v : Value, (refuse v failure : Except Failure Kind) ≠ .ok k := by
    intro v hv
    unfold refuse at hv
    split at hv <;> cases hv
  unfold kindOf at h
  split at h
  · cases h
    rfl
  · cases h
  · exact absurd h (refused _)

/-- The type of a variable can be written if it is a kind. -/
theorem exists_typePrefix {d : Record} {k : Kind} {declared : Value}
    (htype : d.get .type = .ok (.kind k)) (hdeclared : d.get .declared = .ok declared) :
    ∃ text, typePrefix d = .ok text := by
  cases htruth : declared.truth <;>
    simp [typePrefix, htype, hdeclared, htruth, orMisuse, javaType, kindOf, bind, Except.bind]

/-- A variable is refused before its value is drawn.  The value is drawn before the type is
    written, but then the type is known to be a kind. -/
theorem failsFirst_variableDeclaration (s : Settings) (d : Record) :
    FailsFirst Failure.IsRefusal (variableDeclaration s d) := by
  refine Leaves.lift_bind fun type htype => ?_
  -- a type that is no kind is refused at once
  cases hkind : kindOf type .noLiteral with
  | error f =>
    intro t _ _ _
    have hvalue : (drawValue s type).run.run t = (.error f, t) := by
      rw [drawValue, hkind]
      rfl
    rw [run_bind, hvalue]
    rfl
  | ok k =>
    have hget : d.get .type = .ok (.kind k) := kindOf_eq_ok hkind ▸ orMisuse_eq_ok.1 htype
    refine (failsFirst_drawValue s type).bind_avoids fun value => ?_
    -- nothing can be refused any more
    refine (Avoids.lift (spares_typePrefix hget)).bind fun before => ?_
    exact (Avoids.lift (spares_written _)).bind_pure

end Draws

end Fragment

end JavaFragments
