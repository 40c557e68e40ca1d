import JavaFragments.Proofs.Replay.Overlay
import JavaFragments.Proofs.Replay.Records
import JavaFragments.Script.Handle

/-! # Operations on records behind others

Labels refer to records behind others, and every operation on records answers what it answers
without them:

* `follows_recordOf`       the record under a label
* `follows_performRecord`  an operation on records -/

namespace JavaFragments.Script

open Fragment

/-- A shelf behind other records. -/
def Shelf.behind (front : Records) (s : Shelf) : Shelf where
  records := front.behind s.records
  labels := s.labels.map (RecordId.behind front.all.size)

/-- A shelf behind other records; operations may change whatever is on it. -/
def shelfOverlay (front : Records) : Overlay Shelf where
  place := Shelf.behind front
  keeps _ _ := True
  refl _ := trivial
  trans _ _ := trivial

variable {front : Records}

/-! ## The parts of what is done with a shelf -/

/-- What is told of the shelf, up to the records that it is told of. -/
theorem follows_look {α β : Type} {f : α → β} {g : Shelf → Except Failure α}
    {h : Shelf → Except Failure β} (hgh : ∀ s, h (s.behind front) = (g s).map f) :
    Follows (shelfOverlay front) f (Handling.look g) (Handling.look h) where
  result s := by
    show (h (s.behind front), s.behind front) = ((g s).map f, s.behind front)
    rw [hgh]
  keeps _ := trivial

/-- What is told of the records on the shelf. -/
theorem follows_told {α β : Type} {f : α → β} {g : Records → Except Fragment.Failure α}
    {h : Records → Except Fragment.Failure β} (hgh : ∀ r, h (front.behind r) = (g r).map f) :
    Follows (shelfOverlay front) f (Handling.told g) (Handling.told h) := by
  apply follows_look
  intro s
  show (h (front.behind s.records)).mapError Failure.session = _
  rw [hgh]
  -- a failure refers to no record
  cases g s.records <;> rfl

/-- What is told of records is often the same behind others. -/
private theorem follows_told_same {α : Type} {g h : Records → Except Fragment.Failure α}
    (hgh : ∀ r, h (front.behind r) = g r) :
    Follows (shelfOverlay front) id (Handling.told g) (Handling.told h) :=
  follows_told fun r => by
    rw [hgh]
    cases g r <;> rfl

/-- Something that is done with the records on the shelf. -/
theorem follows_amend {g h : Records → Records}
    (hgh : ∀ r, h (front.behind r) = front.behind (g r)) :
    Follows (shelfOverlay front) id (Handling.amend g) (Handling.amend h) where
  result s := by
    show (Except.ok (), { s.behind front with records := h (front.behind s.records) }) = _
    rw [hgh]
    rfl
  keeps _ := trivial

/-- Records that are told are put on the shelf. -/
private theorem follows_put (r : Records) :
    Follows (shelfOverlay front) id (Handling.amend fun _ => r)
      (Handling.amend fun _ => front.behind r) :=
  follows_amend fun _ => rfl

/-- A record that is added is the next one behind the others. -/
private theorem follows_add (d : Record) :
    Follows (shelfOverlay front) (RecordId.behind front.all.size) (Handling.add (·.add d))
      (Handling.add (·.add (d.behind front.all.size))) where
  result s := by
    show (Except.ok ((front.behind s.records).add (d.behind front.all.size)).1,
      { s.behind front with
        records := ((front.behind s.records).add (d.behind front.all.size)).2 }) = _
    -- the next place is counted from the others on
    rw [Records.add_behind]
    rfl
  keeps _ := trivial

/-- A label is put on the record that has moved. -/
private theorem follows_label (label? : Option Label) (c : RecordId) :
    Follows (shelfOverlay front) id (Handling.label label? c)
      (Handling.label label? (c.behind front.all.size)) where
  result s := by
    cases label? with
    | none => rfl
    | some label =>
      show (Except.ok (), { s.behind front with
        labels := (s.labels.map (RecordId.behind front.all.size)).put label
          (c.behind front.all.size) }) = _
      rw [← OrderedMap.map_put]
      rfl
  keeps _ := trivial

/-! ## Labels -/

/-- A label refers to a record behind the others. -/
theorem follows_recordOf (label : Label) :
    Follows (shelfOverlay front) (RecordId.behind front.all.size) (recordOf label)
      (recordOf label) := by
  apply follows_look
  intro s
  have hget : (s.behind front).labels.get? label =
      (s.labels.get? label).map (RecordId.behind front.all.size) := OrderedMap.get?_map ..
  rw [hget]
  cases s.labels.get? label <;> rfl

/-- So do several labels. -/
theorem follows_recordsOf (labels : List Label) :
    Follows (shelfOverlay front) (List.map (RecordId.behind front.all.size)) (recordsOf labels)
      (recordsOf labels) :=
  Follows.mapM follows_recordOf labels

/-- So does a label that may be missing. -/
theorem follows_recordOf? (label? : Option Label) :
    Follows (shelfOverlay front) (Option.map (RecordId.behind front.all.size)) (recordOf? label?)
      (recordOf? label?) := by
  cases label? with
  | none => exact Follows.pure none
  | some label => exact (follows_recordOf label).bind fun c => Follows.pure (some c)

/-! ## Operations -/

/-- What is shown of a record does not depend on its place. -/
theorem follows_shown (c : RecordId) :
    Follows (shelfOverlay front) id (shown c) (shown (c.behind front.all.size)) := by
  have hview : Follows (shelfOverlay front) id (Handling.told fun r => Fragment.orMisuse (r.view c))
      (Handling.told fun r => Fragment.orMisuse (r.view (c.behind front.all.size))) :=
    follows_told_same fun r => by rw [Records.view_behind]
  exact hview.bind fun v => Follows.pure (Answer.record v)

/-- A new record is labelled and shown. -/
theorem follows_introduced (label? : Option Label) (c : RecordId) :
    Follows (shelfOverlay front) id (introduced label? c)
      (introduced label? (c.behind front.all.size)) :=
  (follows_label label? c).bind fun _ => follows_shown c

/-- An assignment to a part of a record. -/
private theorem assign_part_behind (n : Nat) (d : Record) (v : Value) (part : Part) :
    part.assign (d.behind n) v = (part.assign d v).map (Record.behind n) := by
  -- only the places of members may refer to records
  cases part with
  | fields => simp only [Part.assign, Except.map, Record.behind, ofValue_behind]
  | methods => simp only [Part.assign, Except.map, Record.behind, ofValue_behind]
  | params => simp only [Part.assign, Except.map, Record.behind, ofValue_behind]
  | _ => rfl

/-- A record has the same actions behind others. -/
private theorem follows_actorOf (a : ClassAction) (label : Label) :
    Follows (shelfOverlay front) (RecordId.behind front.all.size) (actorOf a label)
      (actorOf a label) := by
  refine (follows_recordOf label).bind fun c => ?_
  have hfind : Follows (shelfOverlay front) id
      (Handling.told fun r => Fragment.orMisuse ((r.get c).findAction a))
      (Handling.told fun r => Fragment.orMisuse ((r.get (c.behind front.all.size)).findAction a)) :=
    follows_told_same fun r => by
      rw [Records.get_behind]
      rfl
  exact hfind.bind fun _ => Follows.pure c

/-- An action of a record, by what it does to the records. -/
private theorem follows_act {α β : Type} {f : α → β} {g : Records → Except Fragment.Failure α}
    {h : Records → Except Fragment.Failure β} (hgh : ∀ r, h (front.behind r) = (g r).map f)
    (a : ClassAction) (c : RecordId) :
    Follows (shelfOverlay front) f (act a c g) (act a (c.behind front.all.size) h) := by
  apply follows_told
  intro r
  -- what a record can do is a matter of its sort
  have hcheck : ((front.behind r).get (c.behind front.all.size)).checkAction a =
      (r.get c).checkAction a := by
    rw [Records.get_behind]
    rfl
  simp only [bind, Except.bind, hcheck, hgh]
  cases Fragment.orMisuse ((r.get c).checkAction a) <;> rfl

/-- A part of a record is assigned in the record that has moved. -/
theorem follows_assign (label : Label) (part : Part) (v : Value) :
    Follows (shelfOverlay front) id (performRecord (.assign label part v))
      (performRecord (.assign label part v)) := by
  refine (follows_recordOf label).bind fun c => ?_
  have hassigned : Follows (shelfOverlay front) (Record.behind front.all.size)
      (Handling.told fun r => Fragment.orMisuse (part.assign (r.get c) v))
      (Handling.told fun r => Fragment.orMisuse (part.assign (r.get (c.behind front.all.size)) v)) :=
    follows_told fun r => by
      rw [Records.get_behind, assign_part_behind]
      cases part.assign (r.get c) v <;> rfl
  refine hassigned.bind fun d => ?_
  have hamend : Follows (shelfOverlay front) id (Handling.amend (·.modify c fun _ => d))
      (Handling.amend (·.modify (c.behind front.all.size) fun _ => d.behind front.all.size)) :=
    follows_amend fun r => by
      apply Records.modify_behind
      intro _
      rfl
  exact hamend.bind fun _ => Follows.pure Answer.done

/-- An operation that gives a class another parent. -/
private theorem follows_setParent (label : Label) (parent? : Option Label) :
    Follows (shelfOverlay front) id (performRecord (.setParent label parent?))
      (performRecord (.setParent label parent?)) := by
  refine (follows_recordOf? parent?).bind fun parent? => ?_
  refine (follows_recordOf label).bind fun c => ?_
  have hset : Follows (shelfOverlay front) id (Handling.amend (·.setParent c parent?))
      (Handling.amend (·.setParent (c.behind front.all.size)
        (parent?.map (RecordId.behind front.all.size)))) :=
    follows_amend fun r => Records.setParent_behind front r c parent?
  exact hset.bind fun _ => Follows.pure Answer.done

/-- A class is added behind others with the ancestors that it has without them. -/
private theorem follows_addClass (name : String) (parent? : Option Label) (m n : Int)
    (label? : Option Label) :
    Follows (shelfOverlay front) id (performRecord (.addClass name parent? m n label?))
      (performRecord (.addClass name parent? m n label?)) := by
  refine (follows_recordOf? parent?).bind fun parent? => ?_
  -- the walk to the ancestors does not come near the others
  have hbuilt : Follows (shelfOverlay front)
      (fun built => (built.1.behind front.all.size, front.behind built.2))
      (Handling.told fun r => buildClass r (.str name) parent? (.int m) (.int n))
      (Handling.told fun r => buildClass r (.str name)
        (parent?.map (RecordId.behind front.all.size)) (.int m) (.int n)) :=
    follows_told fun r => buildClass_behind front r (.str name) parent? (.int m) (.int n)
  refine hbuilt.bind fun built => ?_
  refine (follows_put built.2).bind fun _ => ?_
  exact follows_introduced label? built.1

/-- A record that is added refers to no other but its parameters. -/
private theorem follows_addMethod (name : String) (returnType : Value) (body : String)
    (params : List Label) (owner : String) (throws : Bool) (label? : Option Label) :
    Follows (shelfOverlay front) id
      (performRecord (.addMethod name returnType body params owner throws label?))
      (performRecord (.addMethod name returnType body params owner throws label?)) := by
  refine (follows_recordsOf params).bind fun ids => ?_
  let method (params : Members) : Record :=
    .ofMethod (.str name) returnType (.str body) params (.str owner) (.bool throws)
  have hadd : Follows (shelfOverlay front) (RecordId.behind front.all.size)
      (Handling.add (·.add (method (.ofIds ids))))
      (Handling.add (·.add (method (.ofIds (ids.map (RecordId.behind front.all.size)))))) := by
    rw [← ofIds_behind]
    exact follows_add (method (.ofIds ids))
  exact hadd.bind fun c => follows_introduced label? c

/-- A field is attached to the class that has moved. -/
private theorem follows_attachField (label field : Label) :
    Follows (shelfOverlay front) id (performRecord (.attachField label field))
      (performRecord (.attachField label field)) := by
  refine (follows_actorOf _ label).bind fun c => ?_
  refine (follows_recordOf field).bind fun member => ?_
  -- the list of members gets the member that has moved
  have hattach : ∀ r : Records,
      Fragment.orMisuse ((front.behind r).attachField (c.behind front.all.size)
        (member.behind front.all.size)) =
      (Fragment.orMisuse (r.attachField c member)).map (Records.behind front) := fun r => by
    rw [Records.attachField_behind]
    cases r.attachField c member <;> rfl
  refine (follows_act hattach _ c).bind fun attached => ?_
  refine (follows_put attached).bind fun _ => ?_
  exact follows_shown member

/-- A method is attached to the class that has moved, and this becomes its owner. -/
private theorem follows_attachMethod (label method : Label) :
    Follows (shelfOverlay front) id (performRecord (.attachMethod label method))
      (performRecord (.attachMethod label method)) := by
  refine (follows_actorOf _ label).bind fun c => ?_
  refine (follows_recordOf method).bind fun member => ?_
  have hallowed : Follows (shelfOverlay front) id (act .attachMethod c fun _ => Except.ok ())
      (act .attachMethod (c.behind front.all.size) fun _ => Except.ok ()) :=
    follows_act (fun _ => rfl) _ c
  have hown : Follows (shelfOverlay front) id (Handling.amend (·.own c member))
      (Handling.amend (·.own (c.behind front.all.size) (member.behind front.all.size))) :=
    follows_amend fun r => Records.own_behind front r c member
  have hattach : Follows (shelfOverlay front) (Records.behind front)
      (Handling.told fun r => Fragment.orMisuse (r.attachMethod c member))
      (Handling.told fun r => Fragment.orMisuse (r.attachMethod (c.behind front.all.size)
        (member.behind front.all.size))) :=
    follows_told fun r => by
      rw [Records.attachMethod_behind]
      cases r.attachMethod c member <;> rfl
  -- the class is noted as the owner even if its methods are no list
  refine hallowed.bind fun _ => ?_
  refine hown.bind fun _ => ?_
  refine hattach.bind fun attached => ?_
  refine (follows_put attached).bind fun _ => ?_
  exact follows_shown member

/-- An operation that only looks at records answers the same behind others. -/
theorem follows_answer {α : Type} {g h : Records → Except Fragment.Failure α}
    (hgh : ∀ r, h (front.behind r) = g r) (answer : α → Answer) :
    Follows (shelfOverlay front) id (do return answer (← Handling.told g))
      (do return answer (← Handling.told h)) :=
  (follows_told_same hgh).bind fun x => Follows.pure (answer x)

/-- Every operation on records answers what it answers without others. -/
theorem follows_performRecord (op : RecordOp) :
    Follows (shelfOverlay front) id (performRecord op) (performRecord op) := by
  cases op with
  | addClass name parent? m n label? => exact follows_addClass name parent? m n label?
  | addMethod name returnType body params owner throws label? =>
    exact follows_addMethod name returnType body params owner throws label?
  | addField name type initialValue label? =>
    exact (follows_add _).bind fun c => follows_introduced label? c
  | addVar name type declared available label? =>
    exact (follows_add _).bind fun c => follows_introduced label? c
  | view label => exact (follows_recordOf label).bind follows_shown
  | assign label part v => exact follows_assign label part v
  | setParent label parent? => exact follows_setParent label parent?
  | ancestors label =>
    refine (follows_actorOf _ label).bind fun c => ?_
    -- names of ancestors are texts, which do not move
    have hnames : ∀ r : Records,
        ancestorNames (front.behind r) (c.behind front.all.size) =
          (ancestorNames r c).map id := by
      intro r
      rw [ancestorNames_behind]
      cases ancestorNames r c <;> rfl
    exact (follows_act hnames _ c).bind fun names => Follows.pure (Answer.names names)
  | isRoot label =>
    refine (follows_actorOf _ label).bind fun c => ?_
    have hroot : ∀ r : Records,
        Fragment.orMisuse ((front.behind r).isRoot (c.behind front.all.size)) =
          (Fragment.orMisuse (r.isRoot c)).map id := by
      intro r
      rw [Records.isRoot_behind]
      cases r.isRoot c <;> rfl
    exact (follows_act hroot _ c).bind fun b => Follows.pure (Answer.truth b)
  | attachField label field => exact follows_attachField label field
  | attachMethod label method => exact follows_attachMethod label method
  | same a b =>
    refine (follows_recordOf a).bind fun a => ?_
    refine (follows_recordOf b).bind fun b => ?_
    refine follows_answer (fun r => ?_) Answer.truth
    rw [Records.same_behind]
  | typePrefix target =>
    refine (follows_recordOf target).bind fun c => ?_
    refine follows_answer (fun r => ?_) Answer.text
    rw [Records.get_behind]
    rfl
  | argumentText args =>
    refine (follows_recordsOf args).bind fun ids => ?_
    refine follows_answer (fun r => ?_) Answer.text
    rw [List.map_map]
    exact congrArg _ (List.map_congr_left fun c _ => Records.nameOf_behind front r c)
  | javaType type =>
    have htold : ∀ r : Records, (fun _ => Fragment.javaType type) (front.behind r) =
        Fragment.javaType type := fun _ => rfl
    exact follows_answer htold Answer.text

end JavaFragments.Script
