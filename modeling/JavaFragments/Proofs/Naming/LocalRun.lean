import JavaFragments.Proofs.Effects.Consumption
import JavaFragments.Proofs.Effects.Ensures
import JavaFragments.Proofs.Naming.LocalName
import JavaFragments.Proofs.Naming.Run
import JavaFragments.Proofs.Number.WrittenNumber

/-! # Local variables apart from all else that is named

A run issues names of classes, methods and fields, and names local variables of methods.  Two local
variables have the same name only if they are of methods with the same name and the same number
was drawn.  For a method that the run has named they have a name that nothing else gets:

* `ensures_nextMemberName`   the form of what members are named
* `ensures_newClass`         a new class has the name that was allocated for it
* `form_of_issues`           the form of all that is issued in a run
* `localName_ne_of_form`     local variables have another form
* `localsApart_events`       both in a run -/

namespace JavaFragments

open Fragment Number

/-- The name that is shown of a record. -/
def RecordView.name : RecordView → Value
  | ofClass name .. | ofMethod name .. | ofField name .. | ofVar name .. => name

/-- A record is shown with its name. -/
private theorem name_of_view {r : Records} {id : RecordId} {v : RecordView}
    (h : r.view id = .ok v) :
    v.name = r.nameOf id := by
  unfold Records.view at h
  -- each sort is shown with its name first
  cases hsort : (r.get id).sort <;>
    simp only [hsort, bind_eq_ok_iff, Except.ok.injEq] at h
  · obtain ⟨_, -, _, -, _, -, _, -, _, -, _, -, rfl⟩ := h
    rfl
  · obtain ⟨_, -, _, -, _, -, _, -, _, -, rfl⟩ := h
    rfl
  · obtain ⟨_, -, _, -, rfl⟩ := h
    rfl
  · obtain ⟨_, -, _, -, _, -, rfl⟩ := h
    rfl

namespace Session

/-! ## What members are named -/

/-- Something, what the member is, and a number, with underscores between them. -/
def IsMemberName (s : MemberSort) (name : String) : Prop :=
  ∃ className number : String, name = className ++ "_" ++ s.word ++ "_" ++ number ∧
    ∀ c ∈ number.toList, IsNumberChar c

/-- Members are numbered by what one can be added to, whatever their class is named. -/
theorem ensures_nextMemberName (ref : ClassRef) (s : MemberSort) (a : Attribute) :
    Ensures (fun _ => True) (nextMemberName ref s.word a) fun name _ => IsMemberName s name := by
  refine .last fun id => ?_
  refine .last fun className => ?_
  refine .last fun number => ?_
  refine .lift_bind fun name hname => ?_
  refine .lift_bind fun next hnext => ?_
  refine .last fun _ => .pure fun _ _ => ?_
  -- a number is counted up only if it is one, and then it is written with digits
  obtain ⟨text, htext, hname⟩ := bind_eq_ok_iff.1 hname
  refine ⟨className, text, (Except.ok.inj hname).symm, ?_⟩
  exact isNumberChar_written (orMisuse_eq_ok.1 hnext) htext

/-! ## What classes are named -/

/-- Numbers of members and all that a session has of its own do not touch the name of a record. -/
private theorem keepsName_registerClass (id c : RecordId) :
    Keeps (fun w : Workbench => w.records.nameOf id) (registerClass c) := by
  -- only numbers are assigned, and the registry is no record
  refine keeps_registerClass (fun other a v w => ?_) (fun _ _ => rfl) c
  show ((w.records.assign other a v).get id).name = (w.records.get id).name
  rw [Records.assign]
  rcases Records.get_modify_cases w.records (·.set a v) other id with e | e
  · rw [e]
    rfl
  · rw [e]

/-- A new class has a name that was allocated. -/
theorem ensures_newClass (parent? : Option RecordId) :
    Ensures (fun _ => True) (newClass parent?) fun c w =>
      ∃ n, w.records.nameOf c = .str (classNameOf n) := by
  intro w c v _ hrun
  have hresult : (newClass parent?).result w = (.ok c, v) := hrun
  rw [result_newClass] at hresult
  split at hresult
  · cases hresult
  · rename_i built records hbuild
    -- the class was added with that name,
    have hname : records.nameOf built = .str (classNameOf w.session.classCount) := by
      obtain ⟨rfl, rfl⟩ := Prod.mk.inj (eq_add_of_buildClass hbuild)
      exact congrArg Record.name (Records.get_add_self ..)
    -- and is registered without another one
    have hregister : Ensures (·.records.nameOf built = .str (classNameOf w.session.classCount))
        (do registerClass built; return built : Action RecordId) fun c w' =>
          w'.records.nameOf c = .str (classNameOf w.session.classCount) := by
      refine ((keepsName_registerClass built built).ensures _).bind fun _ => ?_
      exact .pure fun _ hs => hs
    exact ⟨_, hregister _ _ _ hname hresult⟩

end Session

namespace Script

open Session
open Options (Checked)

variable {α : Type}

/-! ## What operations answer -/

/-- What is done on the workbench leaves the rest of the scene. -/
private theorem run_act (a : Action α) (s : Scene) :
    (Run.act a).run.run s =
      ((a.result s.bench).1.mapError .session, { s with bench := (a.result s.bench).2 }) := rfl

/-- What comes of an action comes of it in the scene. -/
private theorem ensures_act {P : Workbench → Prop} {Q : α → Workbench → Prop} {a : Action α}
    (h : Ensures P a Q) : Ensures (fun s => P s.bench) (Run.act a) fun x s => Q x s.bench := by
  intro s x t hs hrun
  rw [run_act] at hrun
  obtain ⟨hx, rfl⟩ := Prod.mk.inj hrun
  cases hresult : (a.result s.bench).1 with
  | error f =>
    rw [hresult] at hx
    cases hx
  | ok y =>
    rw [hresult] at hx
    obtain rfl := Except.ok.inj hx
    exact h.of_fst hs hresult

/-- What comes of handling records comes of it in the scene. -/
private theorem ensures_handle {P : Shelf → Prop} {Q : α → Shelf → Prop} {a : Handling α}
    (h : Ensures P a Q) : Ensures (fun s => P s.shelf) (Run.handle a) fun x s => Q x s.shelf := by
  intro s x t hs hrun
  obtain ⟨hx, rfl⟩ := Prod.mk.inj hrun
  exact h.of_fst hs hx

/-- A record is introduced with its name. -/
private theorem ensures_introduced (label? : Option Label) (id : RecordId) (name : Value) :
    Ensures (fun s : Shelf => s.records.nameOf id = name) (introduced label? id) fun answer _ =>
      ∃ v, answer = .record v ∧ v.name = name := by
  -- labels are no part of records
  have hlabel : Keeps (fun s : Shelf => s.records.nameOf id) (Handling.label label? id) := by
    intro s
    cases label? <;> rfl
  have htold : Ensures (fun s : Shelf => s.records.nameOf id = name)
      (Handling.told fun r => Fragment.orMisuse (r.view id)) fun v _ => v.name = name := by
    intro s v t hs hrun
    have hshown : (Fragment.orMisuse (s.records.view id)).mapError Failure.session = .ok v :=
      congrArg Prod.fst hrun
    cases hview : s.records.view id with
    | error m =>
      rw [hview] at hshown
      cases hshown
    | ok v' =>
      rw [hview] at hshown
      obtain rfl := Except.ok.inj hshown
      exact (name_of_view hview).trans hs
  refine (hlabel.ensures name).bind fun _ => ?_
  exact htold.bind fun v => .pure fun _ hv => ⟨v, rfl, hv⟩

/-- What an action gives as a text is answered as it is. -/
private theorem fst_answerAct (a : Action String) (s : Scene) :
    ((do return Answer.text (← Run.act a) : Run Answer).run.run s).1 =
      match (a.result s.bench).1 with
      | .ok text => .ok (.text text)
      | .error f => .error (.session f) := by
  rw [run_bind, run_act]
  cases (a.result s.bench).1 <;> rfl

/-! ## Names that a run issues -/

/-- What a name is for. -/
inductive Named
  | ofClass
  | ofMember (s : MemberSort)

/-- The form of what is issued for it. -/
def Named.Form : Named → String → Prop
  | ofClass, name => ∃ n, name = classNameOf n
  | ofMember s, name => IsMemberName s name

namespace Event

/-- An operation issues the name of a class, also with the class itself, or of a member. -/
inductive Issues (e : Event) : Named → String → Prop
  | className {name : String} (op : e.op = .session .nextClassName)
      (answer : e.answer = .ok (.text name)) : e.Issues .ofClass name
  | newClass {parent? label? : Option Label} {v : RecordView} {name : String}
      (op : e.op = .session (.newClass parent? label?)) (answer : e.answer = .ok (.record v))
      (shown : v.name = .str name) : e.Issues .ofClass name
  | methodName {arg : ClassArg} {name : String} (op : e.op = .session (.nextMethodName arg))
      (answer : e.answer = .ok (.text name)) : e.Issues (.ofMember .method) name
  | fieldName {arg : ClassArg} {name : String} (op : e.op = .session (.nextFieldName arg))
      (answer : e.answer = .ok (.text name)) : e.Issues (.ofMember .field) name

/-- An operation names a local variable of a method. -/
structure NamesLocal (e : Event) (methodName name : String) : Prop where
  op : e.op = .session (.nextVarName methodName)
  answer : e.answer = .ok (.text name)

end Event

variable {ops : List Op} {s : Scene} {e : Event}

/-- The answers in a run are those of its operations. -/
private theorem answer_of_mem_events (he : e ∈ events ops s) :
    e.answer = ((perform e.op).run.run e.before).1 := by
  induction ops generalizing s with
  | nil => cases he
  | cons op ops ih =>
    rcases List.mem_cons.1 he with rfl | he
    · rfl
    · exact ih he

/-- What is answered for a member is its name. -/
private theorem ensures_memberText (arg : ClassArg) (s : MemberSort) (a : Attribute) :
    Ensures (fun _ => True)
      (do let ref ← classRef arg; return Answer.text (← Run.act (nextMemberName ref s.word a)))
      fun answer _ => ∃ name, answer = .text name ∧ IsMemberName s name := by
  refine .last fun ref => ?_
  refine (ensures_act (ensures_nextMemberName ref s a)).bind fun name => ?_
  exact .pure fun _ hname => ⟨name, rfl, hname⟩

/-- What is answered for a new class is shown under the name that was allocated. -/
private theorem ensures_performNewClass (parent? label? : Option Label) :
    Ensures (fun _ => True) (performSession (.newClass parent? label?)) fun answer _ =>
      ∃ v n, answer = .record v ∧ v.name = .str (classNameOf n) := by
  refine .last fun parent? => ?_
  refine (ensures_act (ensures_newClass parent?)).bind fun c => ?_
  rintro s answer t ⟨n, hn⟩ hrun
  obtain ⟨v, rfl, hv⟩ := ensures_handle (ensures_introduced label? c _) s answer t hn hrun
  exact ⟨v, n, rfl, hv⟩

/-- Everything that a run issues has its form. -/
theorem form_of_issues {named : Named} {name : String} (he : e ∈ events ops s)
    (h : e.Issues named name) : named.Form name := by
  have hperform := answer_of_mem_events he
  -- by what is issued
  cases h with
  | className hop hanswer =>
    rw [hop, hanswer] at hperform
    exact ⟨_, Answer.text.inj (Except.ok.inj hperform)⟩
  | newClass hop hanswer hshown =>
    rw [hop, hanswer] at hperform
    obtain ⟨v, n, hv, hn⟩ := (ensures_performNewClass _ _).of_fst trivial hperform.symm
    obtain rfl := Answer.record.inj hv
    exact ⟨n, Value.str.inj (hshown.symm.trans hn)⟩
  | methodName hop hanswer =>
    rw [hop, hanswer] at hperform
    obtain ⟨_, hname, hform⟩ := (ensures_memberText _ .method _).of_fst trivial hperform.symm
    exact Answer.text.inj hname ▸ hform
  | fieldName hop hanswer =>
    rw [hop, hanswer] at hperform
    obtain ⟨_, hname, hform⟩ := (ensures_memberText _ .field _).of_fst trivial hperform.symm
    exact Answer.text.inj hname ▸ hform

/-! ## Local variables -/

/-- The name of a member, split before its number. -/
private theorem toList_memberName (className word number : String) :
    (className ++ "_" ++ word ++ "_" ++ number).toList =
      (className.toList ++ '_' :: word.toList) ++ '_' :: number.toList := by
  simp

/-- A local variable of a method that was named has a name of another form than all else. -/
theorem localName_ne_of_form {m name : String} {named : Named} (k : Nat)
    (hm : IsMemberName .method m) (hform : named.Form name) : localName m k ≠ name := by
  intro h
  have hlist := congrArg String.toList h
  rw [toList_localName] at hlist
  cases named with
  | ofClass =>
    -- a class name starts with a capital
    obtain ⟨n, rfl⟩ := hform
    have hclass : (classNameOf n).toList = _ := toList_text_ofClass n
    rw [hclass] at hlist
    exact absurd (List.cons.inj hlist).1 (by decide)
  | ofMember sort =>
    obtain ⟨c, number, rfl, hnumber⟩ := hm
    obtain ⟨c', number', rfl, hnumber'⟩ := hform
    have hnone : ∀ {text : String}, (∀ c ∈ text.toList, IsNumberChar c) → '_' ∉ text.toList :=
      fun hall hmem => absurd (hall _ hmem) (by decide)
    rw [toList_memberName, toList_memberName, ← List.append_assoc] at hlist
    -- behind the last underscore but one is a number on one side and a word on the other
    obtain ⟨hfront, -⟩ := split_at_last Nat.underscore_not_in_toDigits (hnone hnumber') hlist
    have hword : '_' ∉ sort.word.toList := by cases sort <;> decide
    obtain ⟨-, hnumberWord⟩ := split_at_last (hnone hnumber) hword hfront
    have hletter : 'd' ∈ sort.word.toList := by cases sort <;> decide
    exact absurd (hnumber 'd' (hnumberWord ▸ hletter)) (by decide)

/-- What is answered for a local variable. -/
private theorem answer_nextVarName {m : String} (he : e ∈ events ops s)
    (hop : e.op = .session (.nextVarName m)) :
    e.answer = match e.before.bench.suffix with
      | .ok n => if Fits n then .ok (.text (localName m n)) else .error (.session (.tooLong ⟨⟩))
      | .error f => .error (.session f) := by
  have hanswer := answer_of_mem_events he
  rw [hop] at hanswer
  rw [hanswer]
  refine (fst_answerAct (nextVarName m) e.before).trans ?_
  -- what the action gives is passed on as a text
  rw [fst_nextVarName]
  cases e.before.bench.suffix with
  | error f => rfl
  | ok n => by_cases hfits : Fits n <;> simp only [hfits, if_true, if_false]

/-- A name that is answered has the number that was drawn. -/
private theorem exists_suffix_of_namesLocal {m name : String} (he : e ∈ events ops s)
    (h : e.NamesLocal m name) :
    ∃ n, e.before.bench.suffix = .ok n ∧ name = localName m n := by
  have hanswer := answer_nextVarName he h.op
  rw [h.answer] at hanswer
  -- without a number there is no name
  cases hsuffix : e.before.bench.suffix with
  | error f =>
    rw [hsuffix] at hanswer
    cases hanswer
  | ok n =>
    simp only [hsuffix] at hanswer
    split at hanswer
    · exact ⟨n, rfl, Answer.text.inj (Except.ok.inj hanswer)⟩
    · cases hanswer

/-! ## Runs -/

/-- Local variables that a run names are apart from those of a run, which may be the same one, and
    from all else that the run itself names. -/
structure LocalsApart (run other : List Event) : Prop where
  /-- Names are the same only for the same method and the same number. -/
  eq_iff : ∀ e ∈ run, ∀ e' ∈ other, ∀ m m' name name',
    e.NamesLocal m name → e'.NamesLocal m' name' →
    (name = name' ↔ m = m' ∧ e.before.bench.suffix = e'.before.bench.suffix)
  /-- With options as they are accepted a number below their bound is drawn from a source that can
      answer, and there is a name with it, unless it is too long to be written. -/
  named : ∀ e ∈ run, ∀ m o, e.op = .session (.nextVarName m) → Checked e.before.bench.settings o →
    e.before.bench.source.fault? = none →
    ∃ n : Nat, (n : Int) < o.varSuffixMax ∧ e.before.bench.suffix = .ok n ∧
      e.answer = if Fits n then .ok (.text (localName m n)) else .error (.session (.tooLong ⟨⟩))
  /-- A local variable of a method that the run has named is named like nothing that the run
      issues. -/
  ne_issued : ∀ e ∈ run, ∀ m name, e.NamesLocal m name →
    (∃ method ∈ run, method.Issues (.ofMember .method) m) →
    ∀ e' ∈ run, ∀ named issued, e'.Issues named issued → name ≠ issued

/-- Local variables of different methods never have the same name, whatever the methods are named,
    and none of a method that was named has the name of a class, a method or a field. -/
theorem localsApart_events (ops ops' : List Op) (s s' : Scene) :
    LocalsApart (events ops s) (events ops' s') where
  eq_iff := by
    intro e he e' he' m m' name name' h h'
    obtain ⟨n, hn, rfl⟩ := exists_suffix_of_namesLocal he h
    obtain ⟨n', hn', rfl⟩ := exists_suffix_of_namesLocal he' h'
    rw [localName_inj, hn, hn', Except.ok.injEq]
  named := by
    intro e he m o hop hchecked hfault
    obtain ⟨n, hn, hsuffix⟩ := suffix_of_checked hchecked hfault
    refine ⟨n, hn, hsuffix, ?_⟩
    rw [answer_nextVarName he hop, hsuffix]
  ne_issued := by
    rintro e he m name h ⟨method, hmethod, hm⟩ e' he' named issued hissued
    obtain ⟨n, -, rfl⟩ := exists_suffix_of_namesLocal he h
    exact localName_ne_of_form n (form_of_issues hmethod hm) (form_of_issues he' hissued)

/-- A class, a method of it, and two local variables of the method. -/
def localOps : List Op := [
  .session .nextClassName, .session (.nextMethodName (.named (.str "Class_0"))),
  .session (.nextVarName "class_0_method_0"), .session (.nextVarName "class_0_method_0")]

/-- A new session whose source answers five and six. -/
def localScene : Scene where
  bench := .unused default (.ofScript [5, 6])

/-- The text that is answered, if one is. -/
def Event.text? (e : Event) : Option String :=
  match e.answer with
  | .ok (.text text) => some text
  | _ => none

private theorem answer_of_text? {e : Event} {text : String} (h : e.text? = some text) :
    e.answer = .ok (.text text) := by
  unfold Event.text? at h
  split at h
  · rename_i hanswer
    rw [hanswer, Option.some.inj h]
  · cases h

/-- The numbers of the two variables are not the same, and neither variable is named like the
    method. -/
theorem localsApart_events_twice :
    ∃ c method first second, events localOps localScene = [c, method, first, second] ∧
      first.NamesLocal "class_0_method_0" "var_class_0_method_0_5" ∧
      second.NamesLocal "class_0_method_0" "var_class_0_method_0_6" ∧
      method.Issues (.ofMember .method) "class_0_method_0" ∧
      first.before.bench.suffix ≠ second.before.bench.suffix ∧
      "var_class_0_method_0_5" ≠ "class_0_method_0" := by
  have hapart := localsApart_events localOps localOps localScene localScene
  obtain ⟨c, method, first, second, hevents, hfirst, hsecond, hmethod⟩ :
      ∃ c method first second, events localOps localScene = [c, method, first, second] ∧
        first.NamesLocal "class_0_method_0" "var_class_0_method_0_5" ∧
        second.NamesLocal "class_0_method_0" "var_class_0_method_0_6" ∧
        method.Issues (.ofMember .method) "class_0_method_0" := by
    refine ⟨_, _, _, _, rfl, ⟨rfl, ?_⟩, ⟨rfl, ?_⟩, .methodName rfl ?_⟩
    · exact answer_of_text? (by decide +kernel)
    · exact answer_of_text? (by decide +kernel)
    · exact answer_of_text? (by decide +kernel)
  rw [hevents] at hapart
  refine ⟨c, method, first, second, hevents, hfirst, hsecond, hmethod, fun hsame => ?_, ?_⟩
  · exact absurd ((hapart.eq_iff _ (by simp) _ (by simp) _ _ _ _ hfirst hsecond).2 ⟨rfl, hsame⟩)
      (by decide)
  · exact hapart.ne_issued _ (by simp) _ _ hfirst ⟨method, by simp, hmethod⟩ method (by simp) _ _
      hmethod

end Script

end JavaFragments
