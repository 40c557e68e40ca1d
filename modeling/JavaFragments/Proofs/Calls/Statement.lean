import JavaFragments.Proofs.Calls.UnitInterval
import JavaFragments.Session.Calls

/-! # A call and what comes of it

A call is about a method and a variable whose parts are texts, kinds and truth values.  If
the method throws, one number is drawn, and the call is wrapped if it is less than the weight
in the options.  A `CallEvent` is a call with what was drawn for it, and tells everything
that comes of the call:

* `CallEvent.site`      what is written
* `CallEvent.after`     the workbench after it
* `result_methodCall`   a call of a session does just that -/

namespace JavaFragments.Session

open Fragment Number JavaFragments.Random

/-- A call that is to be written. -/
structure Call where
  method : RecordId
  /-- The variable that the result is assigned to. -/
  target : RecordId
  args : List RecordId

/-- What the records of a call say about it. -/
structure CallParts where
  owner : String
  method : String
  throws : Bool
  target : String
  type : Kind
  declared : Bool
  args : List String

namespace CallParts

/-- The method with its class. -/
def callee (p : CallParts) : String := p.owner ++ "." ++ p.method

/-- The call with its arguments. -/
def call (p : CallParts) : String := p.callee ++ "(" ++ String.intercalate ", " p.args ++ ")"

/-- The assignment without anything around it.  It declares the variable, unless that is
    declared already. -/
def statement (p : CallParts) : String :=
  (if p.declared then "" else p.type.javaName ++ " ") ++ p.target ++ " = " ++ p.call ++ ";"

end CallParts

/-- The parts of a call are of the types that they should have. -/
structure Call.HasParts (c : Call) (r : Records) (p : CallParts) : Prop where
  owner : (r.get c.method).get .owner = .ok (.str p.owner)
  method : r.nameOf c.method = .str p.method
  throws : (r.get c.method).get .throws = .ok (.bool p.throws)
  target : r.nameOf c.target = .str p.target
  type : (r.get c.target).get .type = .ok (.kind p.type)
  declared : (r.get c.target).get .declared = .ok (.bool p.declared)
  args : c.args.map r.nameOf = p.args.map .str

/-- A call with the number that was drawn for it, if one was. -/
structure CallEvent where
  call : Call
  parts : CallParts
  drawn? : Option Binary64

namespace CallEvent

/-- A call that is written with a source.  A number is drawn if the method throws. -/
def of (c : Call) (p : CallParts) (s : Source) : CallEvent :=
  ⟨c, p, if p.throws then some s.random.1 else none⟩

/-- Whether the call is wrapped: a number was drawn and is less than the weight. -/
def wrapped (weight : Binary64) (e : CallEvent) : Bool := e.drawn?.any (·.lt weight)

/-- What is written. -/
def site (weight : Binary64) (e : CallEvent) : CallSite :=
  if e.wrapped weight then ⟨Fragment.wrapped e.parts.statement, false⟩
  else ⟨e.parts.statement, e.parts.throws⟩

/-- What is noted in the log. -/
def message (weight : Binary64) (e : CallEvent) : String :=
  if e.wrapped weight then "Call to " ++ e.parts.callee ++ " wrapped in try/catch"
  else "Call to " ++ e.parts.callee ++ " may throw into " ++ e.parts.target

/-- The entries in the log of a logger: one for a number that was drawn. -/
def entries (logger : String) (weight : Binary64) (e : CallEvent) : List LogEntry :=
  if e.drawn?.isSome then [⟨logger, .debug, e.message weight⟩] else []

/-- Whether the variable of the call is left without a certain value. -/
def marks (weight : Binary64) (e : CallEvent) : Bool := e.wrapped weight && !e.parts.declared

/-- The records after the call. -/
def mark (weight : Binary64) (r : Records) (e : CallEvent) : Records :=
  if e.marks weight then r.assign e.call.target .available (.bool false) else r

/-- The workbench after the call. -/
def after (weight : Binary64) (w : Workbench) (e : CallEvent) : Workbench where
  session := w.session
  settings := w.settings
  source := if e.drawn?.isSome then w.source.random.2 else w.source
  records := e.mark weight w.records
  log := w.log ++ e.entries w.session.logger weight

end CallEvent

/-! ## Records that are marked -/

/-- Two states of the records have the same names and the same attributes, but perhaps not
    the same variables with certain values. -/
structure SameButAvailable (r r' : Records) : Prop where
  name : ∀ id, r'.nameOf id = r.nameOf id
  get : ∀ id a, a ≠ .available → (r'.get id).get a = (r.get id).get a

/-- A record that has an attribute is one that there is. -/
theorem lt_size_of_get {r : Records} {id : RecordId} {a : Attribute} {v : Value}
    (h : (r.get id).get a = .ok v) : id.index < r.all.size := by
  apply Nat.lt_of_not_le
  intro hle
  rw [Records.get_of_le hle] at h
  cases h

/-- The records after one was given a value for an attribute. -/
theorem get_assign {r : Records} {id : RecordId} (h : id.index < r.all.size) (other : RecordId)
    (a : Attribute) (v : Value) :
    (r.assign id a v).get other =
      if id = other then (r.get other).set a v else r.get other := by
  by_cases he : id = other
  · subst he
    rw [if_pos rfl, Records.assign, Records.get_modify_self r _ h]
  · rw [if_neg he, Records.assign, Records.get_modify_ne r _ he]

/-- A mark is seen in no other part of the records. -/
theorem sameButAvailable_assign {r : Records} {id : RecordId} (h : id.index < r.all.size)
    (v : Value) : SameButAvailable r (r.assign id .available v) where
  name other := by
    rw [Records.nameOf, get_assign h]
    split <;> rfl
  get other a ha := by
    rw [get_assign h]
    split
    · rw [Record.get_set, if_neg (Ne.symm ha)]
    · rfl

/-- A call is about the same parts however the variables are marked. -/
theorem Call.HasParts.of_same {c : Call} {r r' : Records} {p : CallParts} (h : c.HasParts r p)
    (hsame : SameButAvailable r r') : c.HasParts r' p where
  owner := (hsame.get _ _ (by decide)).trans h.owner
  method := (hsame.name _).trans h.method
  throws := (hsame.get _ _ (by decide)).trans h.throws
  target := (hsame.name _).trans h.target
  type := (hsame.get _ _ (by decide)).trans h.type
  declared := (hsame.get _ _ (by decide)).trans h.declared
  args := by
    rw [← h.args]
    exact List.map_congr_left fun id _ => hsame.name id

/-- The target of a call is a record that there is. -/
theorem Call.HasParts.lt_size {c : Call} {r : Records} {p : CallParts} (h : c.HasParts r p) :
    c.target.index < r.all.size := lt_size_of_get h.declared

/-- A call changes nothing in the records but what is certain to have a value. -/
theorem CallEvent.sameButAvailable_mark {e : CallEvent} {r : Records}
    (h : e.call.HasParts r e.parts) (x : Binary64) : SameButAvailable r (e.mark x r) := by
  unfold CallEvent.mark
  split
  · exact sameButAvailable_assign h.lt_size _
  · exact ⟨fun _ => rfl, fun _ _ _ => rfl⟩

/-! ## The texts of a call -/

section Texts

variable {c : Call} {r : Records} {p : CallParts}

/-- The text of the method with its class. -/
theorem Call.HasParts.calleeText (h : c.HasParts r p) :
    calleeText (r.get c.method) = .ok p.callee := by
  have hname : (r.get c.method).name = .str p.method := h.method
  simp only [Fragment.calleeText, h.owner, hname, orMisuse_ok, written_str, bind, Except.bind]
  rfl

/-- The text of the type, where the variable is not declared yet. -/
theorem Call.HasParts.typePrefix (h : c.HasParts r p) :
    typePrefix (r.get c.target) =
      .ok (if p.declared then "" else p.type.javaName ++ " ") := by
  cases hd : p.declared <;>
    simp [Fragment.typePrefix, h.declared, h.type, hd, javaType, kindOf, bind, Except.bind]

/-- The text of the whole statement. -/
theorem Call.HasParts.assignment (h : c.HasParts r p) :
    assignment (r.get c.method) (r.get c.target) (c.args.map r.nameOf) = .ok p.statement := by
  have htarget : (r.get c.target).name = .str p.target := h.target
  simp only [Fragment.assignment, callText, h.calleeText, h.args, argumentText_str,
    h.typePrefix, htarget, written_str, bind, Except.bind]
  rfl

end Texts

/-! ## The call of a session -/

/-- Marking a variable, whose declaration is a truth value. -/
private theorem result_markUnavailable (w : Workbench) {id : RecordId} {declared : Bool}
    (h : (w.records.get id).get .declared = .ok (.bool declared)) :
    (markUnavailable id).result w =
      (.ok (), { w with
        records := if declared then w.records
          else w.records.assign id .available (.bool false) }) := by
  cases declared <;>
    simp [markUnavailable, valueOf, Action.result_bind, h, Action.amend]

/-- A call of a session with the weight and the source that it has. -/
theorem result_methodCall {w : Workbench} {c : Call} {p : CallParts} {x : Binary64}
    (h : c.HasParts w.records p) (hx : w.settings.get .tryCatchWeight = .float x)
    (hs : w.source.fault? = none) :
    (methodCall c.method c.target c.args).result w =
      (.ok ((CallEvent.of c p w.source).site x), (CallEvent.of c p w.source).after x w) := by
  have hname : w.records.nameOf c.target = .str p.target := h.target
  unfold methodCall
  simp only [Action.result_bind, Action.result_look, h.assignment, valueOf, h.throws, orMisuse_ok]
  -- nothing is drawn unless the method throws
  cases hthrows : p.throws with
  | false =>
    simp [CallEvent.of, CallEvent.site, CallEvent.wrapped, CallEvent.after, CallEvent.mark,
      CallEvent.marks, CallEvent.entries, hthrows]
  | true =>
    have hdraw : (Draw.random).result w.source = (.ok w.source.random.1, w.source.random.2) :=
      Draw.result_random hs
    simp only [Value.truth_bool, Bool.not_true, Bool.false_eq_true, if_false, Action.result_bind,
      Action.result_draw, hdraw, Action.result_look, hx, Action.orMisuse, Value.holds_float,
      Comparison.accepts_less_order, orMisuse_ok]
    -- the number that is drawn decides whether the call is wrapped
    cases hlt : w.source.random.1.lt x with
    | true =>
      have hmark : (if p.declared then w.records
          else w.records.assign c.target .available (.bool false)) =
          (CallEvent.of c p w.source).mark x w.records := by
        cases hd : p.declared <;>
          simp [CallEvent.of, CallEvent.mark, CallEvent.marks, CallEvent.wrapped, hthrows, hlt, hd]
      -- the method is looked at again after the variable was marked
      have hcallee := (h.of_same ((CallEvent.of c p w.source).sameButAvailable_mark h x)).calleeText
      simp only [if_true, Action.result_bind, Action.result_look, Action.log,
        Action.result_change, Action.result_pure]
      rw [result_markUnavailable { w with source := w.source.random.2 } h.declared]
      simp only [hmark, hcallee]
      simp [CallEvent.of, CallEvent.site, CallEvent.wrapped, CallEvent.after,
        CallEvent.entries, CallEvent.message, hthrows, hlt, toString]
    | false =>
      simp only [Bool.false_eq_true, if_false, Action.result_bind, Action.result_look,
        h.calleeText, hname, written_str, Action.log, Action.result_change, Action.result_pure]
      simp [CallEvent.of, CallEvent.site, CallEvent.wrapped, CallEvent.after, CallEvent.mark,
        CallEvent.marks, CallEvent.entries, CallEvent.message, hthrows, hlt, toString]

end JavaFragments.Session
