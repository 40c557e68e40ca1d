import JavaFragments.Fragment.Lineage
import JavaFragments.Proofs.Records.Walk
import JavaFragments.Record.View

/-! # Records behind others

Records may be put behind other records that are there already.  Then they have other
identifiers, and whatever they refer to has, but nothing else about them is different:

* `get_behind`, `add_behind`, `modify_behind`     records that are found, added and changed
* `same_behind`, `view_behind`                    their equality, and what is shown of them
* `ancestorNames_behind`, `buildClass_behind`     their ancestors -/

namespace JavaFragments

open Fragment

/-- The identifier of a record behind `n` others. -/
def RecordId.behind (n : Nat) (id : RecordId) : RecordId := ⟨n + id.index⟩

/-- What is in a place, behind `n` other records. -/
def Slot.behind (n : Nat) : Slot → Slot
  | .record id => .record (id.behind n)
  | .value v => .value v

/-- The members of a record behind `n` others. -/
def Members.behind (n : Nat) : Members → Members
  | .list entries => .list (entries.map (Slot.behind n))
  | .value v => .value v

/-- A record behind `n` others. -/
def Record.behind (n : Nat) (d : Record) : Record :=
  { d with
    parent? := d.parent?.map (Slot.behind n)
    fields := d.fields.behind n
    methods := d.methods.behind n
    params := d.params.behind n }

/-- The records behind those of `front`. -/
def Records.behind (front r : Records) : Records :=
  ⟨front.all ++ r.all.map (Record.behind front.all.size)⟩

/-- A fault behind `n` other records. -/
def AncestryFault.behind (n : Nat) : AncestryFault → AncestryFault
  | .cycle id => .cycle (id.behind n)
  | .misuse m => .misuse m

/-- Different records are different behind the others as well. -/
theorem behind_inj {n : Nat} {a b : RecordId} : a.behind n = b.behind n ↔ a = b := by
  constructor
  · intro h
    have hindex : n + a.index = n + b.index := congrArg RecordId.index h
    cases a
    cases b
    exact congrArg RecordId.mk (Nat.add_left_cancel hindex)
  · exact congrArg _

/-! ## What does not change -/

section

variable (n : Nat) (d : Record)

/-- A record keeps its sort behind others. -/
@[simp] theorem sort_behind : (d.behind n).sort = d.sort := rfl

/-- It keeps its name. -/
@[simp] theorem name_behind : (d.behind n).name = d.name := rfl

/-- It keeps its attributes. -/
@[simp] theorem get_behind_attribute (a : Attribute) : (d.behind n).get a = d.get a := rfl

/-- The parent is looked up as without others, and refers to a record that has moved. -/
private theorem parent_behind : (d.behind n).parent = d.parent.map (Slot.behind n) := by
  have hparent : (d.behind n).parent? = d.parent?.map (Slot.behind n) := rfl
  rw [Record.parent, Record.parent, hparent]
  -- without a parent both look-ups fail
  cases d.parent? <;> rfl

end

/-- Members that are given by their identifiers. -/
theorem ofIds_behind (n : Nat) (ids : List RecordId) :
    (Members.ofIds ids).behind n = .ofIds (ids.map (RecordId.behind n)) := by
  simp only [Members.ofIds, Members.behind, List.map_map]
  rfl

/-- A value in the place of members refers to no record. -/
theorem ofValue_behind (n : Nat) (v : Value) : (Members.ofValue v).behind n = .ofValue v := by
  cases v with
  | list vs =>
    simp only [Members.ofValue, Members.behind, List.map_map]
    rfl
  | _ => rfl

/-- A member is put behind those of a list, and refused where there is no list. -/
private theorem push_behind (n : Nat) (id : RecordId) (ms : Members) :
    (ms.behind n).push (id.behind n) = (ms.push id).map (Members.behind n) := by
  cases ms with
  | list entries =>
    simp only [Members.behind, Members.push_list, Except.map, List.map_append, List.map_cons,
      List.map_nil]
    rfl
  | value v => rfl

/-- The place for a parent, or null if there is none. -/
private theorem place_behind (n : Nat) (parent? : Option RecordId) :
    (Records.place parent?).behind n = Records.place (parent?.map (RecordId.behind n)) := by
  cases parent? <;> rfl

/-! ## Finding, adding and changing -/

namespace Records

variable (front r : Records)

/-- A record is found behind the others. -/
@[simp] theorem get_behind (id : RecordId) :
    (front.behind r).get (id.behind front.all.size) = (r.get id).behind front.all.size := by
  have hge : front.all.size ≤ front.all.size + id.index := Nat.le_add_right _ _
  simp only [get, behind, RecordId.behind, Array.getD_eq_getD_getElem?]
  rw [Array.getElem?_append_right hge, Nat.add_sub_cancel_left, Array.getElem?_map]
  cases r.all[id.index]? <;> rfl

/-- A record has kept its name. -/
@[simp] theorem nameOf_behind (id : RecordId) :
    (front.behind r).nameOf (id.behind front.all.size) = r.nameOf id := by
  rw [nameOf, get_behind]
  rfl

/-- A record is added behind the others. -/
theorem add_behind (d : Record) :
    (front.behind r).add (d.behind front.all.size) =
      ((r.add d).1.behind front.all.size, front.behind (r.add d).2) := by
  simp [add, behind, RecordId.behind]

/-- A record is changed behind the others. -/
theorem modify_behind {f g : Record → Record}
    (h : ∀ d, g (d.behind front.all.size) = (f d).behind front.all.size) (id : RecordId) :
    (front.behind r).modify (id.behind front.all.size) g = front.behind (r.modify id f) := by
  have hall : (front.all ++ r.all.map (Record.behind front.all.size)).modify
      (front.all.size + id.index) g =
        front.all ++ (r.all.modify id.index f).map (Record.behind front.all.size) := by
    apply Array.ext_getElem?
    intro i
    rw [Array.getElem?_modify]
    by_cases hi : i < front.all.size
    · -- no place of the front is changed
      have hne : front.all.size + id.index ≠ i := by omega
      rw [if_neg hne, Array.getElem?_append_left hi, Array.getElem?_append_left hi]
    · -- behind the front both sides are places of the records that are changed
      obtain ⟨j, rfl⟩ : ∃ j, i = front.all.size + j := ⟨i - front.all.size, by omega⟩
      have hge : front.all.size ≤ front.all.size + j := Nat.le_add_right _ _
      rw [Array.getElem?_append_right hge, Array.getElem?_append_right hge, Nat.add_sub_cancel_left,
        Array.getElem?_map, Array.getElem?_map, Array.getElem?_modify]
      by_cases hj : id.index = j
      · rw [if_pos (by omega), if_pos hj]
        cases r.all[j]? with
        | none => rfl
        | some d => exact congrArg some (h d)
      · rw [if_neg (by omega), if_neg hj]
  -- records are no more than their array
  exact congrArg Records.mk hall

/-- An attribute is assigned behind the others. -/
theorem assign_behind (id : RecordId) (a : Attribute) (v : Value) :
    (front.behind r).assign (id.behind front.all.size) a v = front.behind (r.assign id a v) := by
  apply modify_behind
  intro d
  rfl

/-- The owner of a method is told by its name, and that is the same. -/
theorem own_behind (c id : RecordId) :
    (front.behind r).own (c.behind front.all.size) (id.behind front.all.size) =
      front.behind (r.own c id) := by
  rw [own, own, nameOf_behind, assign_behind]

/-- A parent that is set has moved as well. -/
theorem setParent_behind (id : RecordId) (parent? : Option RecordId) :
    (front.behind r).setParent (id.behind front.all.size)
        (parent?.map (RecordId.behind front.all.size)) =
      front.behind (r.setParent id parent?) := by
  apply modify_behind
  intro d
  rw [← place_behind]
  rfl

/-- A member is put behind others of a record as it is put behind them without other records. -/
private theorem push_get_behind (part : Record → Members)
    (hpart : ∀ (n : Nat) (d : Record), part (d.behind n) = (part d).behind n) (c id : RecordId) :
    (part ((front.behind r).get (c.behind front.all.size))).push (id.behind front.all.size) =
      ((part (r.get c)).push id).map (Members.behind front.all.size) := by
  rw [get_behind, hpart]
  exact push_behind ..

/-- A field is attached behind others, or refused as without them. -/
theorem attachField_behind (c id : RecordId) :
    (front.behind r).attachField (c.behind front.all.size) (id.behind front.all.size) =
      (r.attachField c id).map (Records.behind front) := by
  rw [attachField, attachField, push_get_behind front r Record.fields fun _ _ => rfl]
  cases (r.get c).fields.push id with
  -- the fields are no list
  | error m => rfl
  | ok fields =>
    apply congrArg Except.ok
    apply modify_behind
    intro d
    rfl

/-- A method is attached behind others, or refused as without them. -/
theorem attachMethod_behind (c id : RecordId) :
    (front.behind r).attachMethod (c.behind front.all.size) (id.behind front.all.size) =
      (r.attachMethod c id).map (Records.behind front) := by
  rw [attachMethod, attachMethod, push_get_behind front r Record.methods fun _ _ => rfl]
  cases (r.get c).methods.push id with
  -- the methods are no list
  | error m => rfl
  | ok methods =>
    apply congrArg Except.ok
    apply modify_behind
    intro d
    rfl

/-- A class is a root behind others if it is one without them. -/
theorem isRoot_behind (id : RecordId) :
    (front.behind r).isRoot (id.behind front.all.size) = r.isRoot id := by
  rw [isRoot, isRoot, get_behind, parent_behind]
  cases (r.get id).parent with
  | error m => rfl
  | ok what =>
    -- only null makes a root, and it is null behind others too
    cases what with
    | record id => rfl
    | value v => cases v <;> rfl

/-! ## Equality -/

/-- Entries are compared one after the other, as long as they are equal. -/
private theorem sameEntries_behind {n : Nat} {same same' : RecordId → RecordId → Except Misuse Bool}
    (h : ∀ a b, same' (a.behind n) (b.behind n) = same a b) (as bs : List Slot) :
    Members.sameEntries same' (as.map (Slot.behind n)) (bs.map (Slot.behind n)) =
      Members.sameEntries same as bs := by
  have hslot : ∀ a b : Slot, (a.behind n).same same' (b.behind n) = a.same same b := by
    intro a b
    cases a <;> cases b <;> first | rfl | exact h _ _
  -- on the entries of the first list; an unequal pair ends both comparisons
  induction as generalizing bs with
  | nil => cases bs <;> rfl
  | cons a as ih =>
    cases bs with
    | nil => rfl
    | cons b bs => simp only [List.map_cons, Members.sameEntries, hslot, ih]

/-- Members are compared only if both are lists of the same length. -/
private theorem sameMembers_behind {n : Nat} {same same' : RecordId → RecordId → Except Misuse Bool}
    (h : ∀ a b, same' (a.behind n) (b.behind n) = same a b) (as bs : Members) :
    (as.behind n).same same' (bs.behind n) = as.same same bs := by
  cases as with
  | value v => cases bs <;> rfl
  | list as =>
    cases bs with
    | value v => rfl
    | list bs =>
      simp only [Members.behind, Members.same, List.length_map, sameEntries_behind h]

/-- Records that are nested only so deep are compared as without others. -/
private theorem sameWithin_behind (depth : Nat) (a b : RecordId) :
    (front.behind r).sameWithin depth (a.behind front.all.size) (b.behind front.all.size) =
      r.sameWithin depth a b := by
  -- on the depth, as parameters are compared one level further down
  induction depth generalizing a b with
  | zero => simp only [sameWithin, behind_inj]
  | succ depth ih =>
    have hparams : ∀ d e : Record,
        (d.behind front.all.size).params.same ((front.behind r).sameWithin depth)
          (e.behind front.all.size).params = d.params.same (r.sameWithin depth) e.params :=
      fun d e => sameMembers_behind ih d.params e.params
    have hattributes : ∀ (d e : Record) (as : List Attribute),
        (d.behind front.all.size).sameAttributes (e.behind front.all.size) as =
          d.sameAttributes e as := fun _ _ _ => rfl
    simp only [sameWithin, get_behind, behind_inj, sort_behind, name_behind, hparams, hattributes]

/-- Records are equal behind others if they are equal. -/
theorem same_behind (a b : RecordId) :
    (front.behind r).same (a.behind front.all.size) (b.behind front.all.size) = r.same a b :=
  sameWithin_behind front r maxNesting a b

/-! ## Ancestors -/

/-- A walk has come to where it was before if it has so without others. -/
private theorem hasPassed_behind (self : Option RecordId) (passed : List RecordId) (id : RecordId) :
    (front.behind r).hasPassed (self.map (RecordId.behind front.all.size))
        (passed.map (RecordId.behind front.all.size)) (id.behind front.all.size) =
      r.hasPassed self passed id := by
  have hself : self.map (RecordId.behind front.all.size) = some (id.behind front.all.size) ↔
      self = some id := by
    cases self with
    | none => simp
    | some a => simp [behind_inj]
  -- the records passed are asked in their order, up to the first that is equal
  have hany : (passed.map (RecordId.behind front.all.size)).anyM
      ((front.behind r).same · (id.behind front.all.size)) = passed.anyM (r.same · id) := by
    induction passed with
    | nil => rfl
    | cons a passed ih => simp only [List.map_cons, List.anyM, same_behind, ih]
  simp only [hasPassed, hself, hany]

/-- What comes of a walk behind other records. -/
def walkBehind (n : Nat) :
    Except AncestryFault (List RecordId) → Except AncestryFault (List RecordId)
  | .ok ids => .ok (ids.map (RecordId.behind n))
  | .error fault => .error (fault.behind n)

/-- A walk behind others passes the same records, which have moved. -/
private theorem climb_behind (self : Option RecordId) (fuel : Nat) (passed : List RecordId)
    (what : Slot) :
    (front.behind r).climb (self.map (RecordId.behind front.all.size)) fuel
        (passed.map (RecordId.behind front.all.size)) (what.behind front.all.size) =
      walkBehind front.all.size (r.climb self fuel passed what) := by
  -- on the steps that are left; each passes one record more
  induction fuel generalizing passed what with
  | zero =>
    cases what with
    | record id => rfl
    | value v => cases v <;> rfl
  | succ fuel ih =>
    cases what with
    | value v => cases v <;> rfl
    | record id =>
      simp only [Slot.behind, climb, hasPassed_behind, get_behind, parent_behind]
      cases r.hasPassed self passed id with
      | error m => rfl
      | ok b =>
        cases b with
        | true => rfl
        | false =>
          cases (r.get id).parent with
          | error m => rfl
          | ok above =>
            -- the record is passed now, behind those before it
            have hpush : passed.map (RecordId.behind front.all.size) ++ [id.behind front.all.size] =
                (passed ++ [id]).map (RecordId.behind front.all.size) := by simp
            simp only [Except.map, hpush, ih]

/-- The limit of a walk is larger behind other records, but no walk comes to it. -/
private theorem climb_limit_behind (self : Option RecordId) (what : Slot) :
    (front.behind r).climb (self.map (RecordId.behind front.all.size)) (front.behind r).climbLimit []
        (what.behind front.all.size) =
      walkBehind front.all.size (r.climb self r.climbLimit [] what) := by
  have hsize : (front.behind r).all.size = front.all.size + r.all.size := by simp [behind]
  have hlonger : r.climb self (front.behind r).climbLimit [] what =
      r.climb self r.climbLimit [] what := by
    apply climb_of_le (Passed.nil r)
    · simp only [climbLimit, List.length_nil]
      omega
    · simp only [climbLimit, hsize]
      omega
  -- now both walks have the same limit
  rw [← hlonger]
  exact climb_behind front r self _ [] what

/-- The ancestors of a class have moved with it. -/
private theorem ancestors_behind (c : RecordId) :
    (front.behind r).ancestors (c.behind front.all.size) =
      walkBehind front.all.size (r.ancestors c) := by
  rw [ancestors, ancestors, get_behind, parent_behind]
  cases (r.get c).parent with
  | error m => rfl
  | ok above => exact climb_limit_behind front r (some c) above

/-- The ancestors that a new class would have have moved as well. -/
private theorem ancestorsBelow_behind (above : Slot) :
    (front.behind r).ancestorsBelow (above.behind front.all.size) =
      walkBehind front.all.size (r.ancestorsBelow above) :=
  climb_limit_behind front r none above

/-! ## What is shown -/

/-- The name of what is referred to is looked up in the records that have moved. -/
private theorem slotName_behind (what : Slot) :
    (what.behind front.all.size).name (front.behind r).nameOf = what.name r.nameOf := by
  cases what with
  | record id => exact congrArg Except.ok (nameOf_behind front r id)
  | value v => cases v <;> rfl

/-- So is the name of a parent. -/
private theorem parentName_behind (what : Slot) :
    (what.behind front.all.size).parentName (front.behind r).nameOf = what.parentName r.nameOf := by
  cases what with
  | record id => exact congrArg (some <$> ·) (slotName_behind front r (.record id))
  | value v => cases v <;> rfl

/-- So are the names of members. -/
private theorem names_behind (ms : Members) :
    (ms.behind front.all.size).names (front.behind r).nameOf = ms.names r.nameOf := by
  cases ms with
  | value v => cases v <;> rfl
  | list entries =>
    have hname : Slot.name (front.behind r).nameOf ∘ Slot.behind front.all.size =
        Slot.name r.nameOf := funext (slotName_behind front r)
    simp only [Members.behind, Members.names, List.mapM_map, hname]

/-- What is shown of a record is the same behind others. -/
theorem view_behind (id : RecordId) :
    (front.behind r).view (id.behind front.all.size) = r.view id := by
  have hfields : ∀ d : Record, (d.behind front.all.size).fields.names (front.behind r).nameOf =
      d.fields.names r.nameOf := fun d => names_behind front r d.fields
  have hmethods : ∀ d : Record, (d.behind front.all.size).methods.names (front.behind r).nameOf =
      d.methods.names r.nameOf := fun d => names_behind front r d.methods
  have hparams : ∀ d : Record, (d.behind front.all.size).params.names (front.behind r).nameOf =
      d.params.names r.nameOf := fun d => names_behind front r d.params
  simp only [view, get_behind, sort_behind, name_behind, get_behind_attribute, parent_behind, hfields,
    hmethods, hparams]
  -- only the parent of a class may be missing
  cases (r.get id).parent with
  | error m => rfl
  | ok what => simp only [Except.map, bind, Except.bind, parentName_behind]

end Records

namespace Fragment

variable (front r : Records)

/-- The failure of a walk tells of records by their names. -/
private theorem lineFailure_behind (name : Value) (fault : AncestryFault) :
    lineFailure (front.behind r) name (fault.behind front.all.size) = lineFailure r name fault := by
  cases fault with
  | cycle id => simp only [AncestryFault.behind, lineFailure, Records.nameOf_behind]
  | misuse m => rfl

/-- The ancestors of a class are named as without others. -/
theorem ancestorNames_behind (c : RecordId) :
    ancestorNames (front.behind r) (c.behind front.all.size) = ancestorNames r c := by
  rw [ancestorNames, ancestorNames, Records.ancestors_behind, Records.nameOf_behind]
  cases r.ancestors c with
  | error fault => exact congrArg Except.error (lineFailure_behind front r _ fault)
  | ok ids =>
    have hnames : (front.behind r).nameOf ∘ RecordId.behind front.all.size = r.nameOf :=
      funext (Records.nameOf_behind front r)
    simp only [Records.walkBehind, List.map_map, hnames]

/-- A class is refused or added as it is without other records. -/
theorem buildClass_behind (name : Value) (parent? : Option RecordId)
    (methodCount fieldCount : Value) :
    buildClass (front.behind r) name (parent?.map (RecordId.behind front.all.size)) methodCount
        fieldCount =
      (buildClass r name parent? methodCount fieldCount).map
        fun built => (built.1.behind front.all.size, front.behind built.2) := by
  rw [buildClass, buildClass, ← place_behind, Records.ancestorsBelow_behind]
  cases r.ancestorsBelow (Records.place parent?) with
  | error fault => exact congrArg Except.error (lineFailure_behind front r name fault)
  | ok ids => exact congrArg Except.ok (Records.add_behind front r
      (.ofClass name (Records.place parent?) methodCount fieldCount))

end Fragment

end JavaFragments
