import JavaFragments.Ini.Interpolation
import JavaFragments.Proofs.Effects.Result
import JavaFragments.Proofs.Ini.LineEffect

/-! # Values that references lead to

The references in a value are replaced, and those in the values they lead to, and so on.  That fails
where a value on the way is not sound, or where a chain of references is too long, and in no other
way:

* `expand_isOk_iff`   what can be replaced, by the values that references lead to
* `error_expand`      what goes wrong otherwise
* `get_of_raw`        an option that is found has a text or breaks a reference -/

namespace JavaFragments

namespace Ini

open Text

/-! ## Pieces of parts -/

section

variable {ε α β : Type} {f : α → Except ε (List β)} {as : List α}

/-- A failure over a list is that of one of its members. -/
private theorem error_of_flatMapM {P : ε → Prop} (h : ∀ a ∈ as, ∀ e, f a = .error e → P e) {e : ε}
    (he : as.flatMapM f = .error e) : P e := by
  -- on the list: its first member fails, or the rest does
  induction as with
  | nil => simp [pure, Except.pure] at he
  | cons a as ih =>
    rw [List.flatMapM_cons, bind_eq_error_iff] at he
    obtain ha | ⟨bs, -, hrest⟩ := he
    · exact h a List.mem_cons_self e ha
    rw [bind_eq_error_iff] at hrest
    obtain has | ⟨cs, -, hpure⟩ := hrest
    · exact ih (fun b hb => h b (List.mem_cons_of_mem a hb)) has
    · simp [pure, Except.pure] at hpure

/-- The pieces of the parts of a list are the pieces of its members. -/
private theorem flatMapM_cons_eq_ok {a : α} {bs : List β} :
    (a :: as).flatMapM f = .ok bs ↔
      ∃ cs ds, f a = .ok cs ∧ as.flatMapM f = .ok ds ∧ cs ++ ds = bs := by
  simp only [List.flatMapM_cons, bind_eq_ok_iff, pure, Except.pure, Except.ok.injEq,
    exists_and_left]

/-- There are pieces of all if there are pieces of each. -/
private theorem exists_flatMapM_eq_ok :
    (∃ bs, as.flatMapM f = .ok bs) ↔ ∀ a ∈ as, ∃ cs, f a = .ok cs := by
  induction as with
  | nil => simp [pure, Except.pure]
  | cons a as ih =>
    rw [List.forall_mem_cons, ← ih]
    simp only [flatMapM_cons_eq_ok]
    constructor
    · rintro ⟨-, cs, ds, hcs, hds, -⟩
      exact ⟨⟨cs, hcs⟩, ds, hds⟩
    · rintro ⟨⟨cs, hcs⟩, ds, hds⟩
      exact ⟨_, cs, ds, hcs, hds, rfl⟩

/-- What is true of the pieces of each is true of the pieces of all. -/
private theorem forall_of_flatMapM {P : β → Prop} (h : ∀ a ∈ as, ∀ cs, f a = .ok cs → ∀ c ∈ cs, P c)
    {bs : List β} (hbs : as.flatMapM f = .ok bs) : ∀ b ∈ bs, P b := by
  induction as generalizing bs with
  | nil =>
    obtain rfl : [] = bs := by simpa [pure, Except.pure] using hbs
    exact fun b hb => absurd hb List.not_mem_nil
  | cons a as ih =>
    obtain ⟨cs, ds, hcs, hds, rfl⟩ := flatMapM_cons_eq_ok.1 hbs
    intro b hb
    rcases List.mem_append.1 hb with hb | hb
    · exact h a List.mem_cons_self cs hcs b hb
    · exact ih (fun a' ha' => h a' (List.mem_cons_of_mem a ha')) hds b hb

end

/-! ## What references lead to -/

section

variable (find? : String → Option RawValue)

/-- A part of a text has a meaning. -/
def Part.Holds : Part → Prop
  | literal _ => True
  | reference name => ∃ v, find? (lower (String.ofList name)) = some v
  | openReference _ => False
  | strayPercent _ => False

/-- Every percent sign in a text has a meaning, and every reference names an option. -/
def RawValue.Sound (v : RawValue) : Prop :=
  ∃ s, v = .text s ∧ ∀ part ∈ parts s.toList, part.Holds find?

/-- A reference in a text leads to a value that has to be looked at in turn. -/
def LeadsTo (v w : RawValue) : Prop :=
  ∃ s name, v = .text s ∧ .reference name ∈ parts s.toList ∧
    find? (lower (String.ofList name)) = some w ∧ w.hasPercent

/-- A number of references, one after the other, lead from a value to another. -/
inductive Chain : Nat → RawValue → RawValue → Prop
  | nil (v : RawValue) : Chain 0 v v
  | cons {v w x : RawValue} {n : Nat} : LeadsTo find? v w → Chain n w x → Chain (n + 1) v x

/-- The values that fewer references than the limit lead to are sound, and no chain of references
    comes up to it. -/
structure Followable (limit : Nat) (v : RawValue) : Prop where
  sound : ∀ n < limit, ∀ w, Chain find? n v w → w.Sound find?
  short : ∀ w, ¬ Chain find? limit v w

end

section

variable {find? : String → Option RawValue} {q : Query}

/-- No reference can be followed where none is allowed. -/
private theorem not_followable_zero (v : RawValue) :
    ¬ Followable find? 0 v := fun h => h.short v (.nil v)

/-- A value can be followed if it is sound and so can be what it leads to, with one reference less. -/
private theorem followable_succ {limit : Nat} {v : RawValue} :
    Followable find? (limit + 1) v ↔
      v.Sound find? ∧ ∀ w, LeadsTo find? v w → Followable find? limit w := by
  constructor
  · intro h
    refine ⟨h.sound 0 (Nat.zero_lt_succ _) v (.nil v), fun w hw => ⟨fun n hn x hx => ?_, ?_⟩⟩
    · exact h.sound (n + 1) (Nat.succ_lt_succ hn) x (.cons hw hx)
    · exact fun x hx => h.short x (.cons hw hx)
  · rintro ⟨hsound, hnext⟩
    refine ⟨fun n hn w hw => ?_, fun w hw => ?_⟩
    · -- a chain to a value is empty, or goes on from what the first reference leads to
      cases hw with
      | nil => exact hsound
      | cons hlead hrest => exact (hnext _ hlead).sound _ (Nat.lt_of_succ_lt_succ hn) w hrest
    · cases hw with
      | cons hlead hrest => exact (hnext _ hlead).short w hrest

/-- The references in a value can be replaced if and only if it can be followed. -/
theorem expand_isOk_iff {limit : Nat} {v : RawValue} :
    (∃ pieces, expand find? q limit v = .ok pieces) ↔ Followable find? limit v := by
  -- on the limit: what the references in a value lead to is replaced with one less
  induction limit generalizing v with
  | zero => simp [expand, not_followable_zero]
  | succ limit ih =>
    rw [followable_succ]
    cases v with
    | lines ls => simp [expand, RawValue.Sound]
    | text s =>
      rw [expand, exists_flatMapM_eq_ok]
      constructor
      · -- all parts are replaced: each has a meaning, and what it leads to is replaced in turn
        intro h
        refine ⟨⟨s, rfl, fun part hpart => ?_⟩, ?_⟩
        · have hpieces := h part hpart
          cases part with
          | literal t => trivial
          | reference name =>
            cases hfind : find? (lower (String.ofList name)) with
            | none => simp [hfind] at hpieces
            | some v => exact ⟨v, hfind⟩
          | openReference rest => simp at hpieces
          | strayPercent rest => simp at hpieces
        · rintro w ⟨s', name, heq, hmem, hfind, hpercent⟩
          cases heq
          have hpieces := h _ hmem
          simp only [hfind, hpercent, if_true] at hpieces
          exact ih.1 hpieces
      · -- a part with a meaning can be replaced
        rintro ⟨⟨s', heq, hholds⟩, hnext⟩ part hpart
        cases heq
        have hpartHolds := hholds part hpart
        cases part with
        | literal t => exact ⟨_, rfl⟩
        | reference name =>
          obtain ⟨v, hfind⟩ := hpartHolds
          simp only [hfind]
          split
          · rename_i hpercent
            exact ih.2 (hnext v ⟨s, name, rfl, hpart, hfind, hpercent⟩)
          · exact ⟨_, rfl⟩
        | openReference rest => exact hpartHolds.elim
        | strayPercent rest => exact hpartHolds.elim

/-! ## What goes wrong -/

/-- A reference in a value cannot be replaced. -/
inductive Error.BreaksReference : Error → Prop
  | strayPercent (rest : String) : BreaksReference (.strayPercent rest)
  | openReference (rest : String) : BreaksReference (.openReference rest)
  | unknownReference (option sectionName key raw : String) :
      BreaksReference (.unknownReference option sectionName key raw)
  | tooDeep (option sectionName raw : String) : BreaksReference (.tooDeep option sectionName raw)

/-- There is no such section or option. -/
def Error.isMissing : Error → Bool
  | noSection _ | noOption _ _ => true
  | _ => false

/-- What goes wrong in the text of a value is not taken for its absence. -/
theorem Error.BreaksReference.isMissing {e : Error} (h : e.BreaksReference) :
    e.isMissing = false := by
  cases h <;> rfl

/-- Replacing references breaks one of them, or comes to the lines of a value. -/
theorem error_expand {I : RawValue → Prop} (hfound : ∀ key v, find? key = some v → I v)
    {limit : Nat} {v : RawValue} (hv : I v) {e : Error} (h : expand find? q limit v = .error e) :
    e.BreaksReference ∨ e = .unfinished ∧ ∃ ls, I (.lines ls) := by
  -- what a reference stands for is replaced with one level less
  induction limit generalizing v e with
  | zero =>
    obtain rfl : Error.tooDeep q.option q.sectionName q.raw = e := by simpa [expand] using h
    exact .inl (.tooDeep ..)
  | succ limit ih =>
    cases v with
    | lines ls =>
      obtain rfl : Error.unfinished = e := by simpa [expand] using h
      exact .inr ⟨rfl, ls, hv⟩
    | text s =>
      rw [expand] at h
      refine error_of_flatMapM (P := fun e => e.BreaksReference ∨ e = .unfinished ∧ ∃ ls, I (.lines ls))
        (fun part _ e he => ?_) h
      cases part with
      | literal t => cases he
      | strayPercent rest => cases he; exact .inl (.strayPercent _)
      | openReference rest => cases he; exact .inl (.openReference _)
      | reference name =>
        simp only at he
        cases hfind : find? (lower (String.ofList name)) with
        | none =>
          rw [hfind] at he
          cases he
          exact .inl (.unknownReference ..)
        | some v =>
          rw [hfind] at he
          simp only at he
          split at he
          · exact ih (hfound _ v hfind) he
          · cases he

/-- Replacing references fails in its own ways only. -/
theorem isMissing_expand {limit : Nat} {v : RawValue} {e : Error}
    (h : expand find? q limit v = .error e) : e.isMissing = false := by
  rcases error_expand (I := fun _ => True) (fun _ _ _ => trivial) trivial h with he | ⟨rfl, -⟩
  · exact he.isMissing
  · rfl

end

/-- Putting pieces together fails in its own way only. -/
theorem isMissing_joinPieces {before : String} {index : Nat} {pieces : List RawValue} {e : Error}
    (h : joinPieces before index pieces = .error e) : e.isMissing = false := by
  -- on the pieces: a text is appended, and lines are refused
  induction pieces generalizing before index with
  | nil => cases h
  | cons piece pieces ih =>
    cases piece with
    | text s => exact ih h
    | lines ls => cases h; rfl

/-! ## Documents of texts -/

/-- A value whose lines are put together. -/
def RawValue.IsText (v : RawValue) : Prop := ∃ s, v = .text s

/-- A value whose lines are put together is a text. -/
private theorem isText_settle (v : RawValue) : v.settle.IsText := by
  cases v with
  | text s => exact ⟨s, rfl⟩
  | lines ls => exact ⟨_, rfl⟩

/-- The references in texts are replaced by texts. -/
theorem isText_expand {find? : String → Option RawValue} {q : Query}
    (hfound : ∀ key v, find? key = some v → v.IsText) {limit : Nat} {v : RawValue}
    {pieces : List RawValue} (h : expand find? q limit v = .ok pieces) :
    ∀ piece ∈ pieces, piece.IsText := by
  -- on the limit: literals are texts, and what a reference stands for is one as well
  induction limit generalizing v pieces with
  | zero => simp [expand] at h
  | succ limit ih =>
    cases v with
    | lines ls => simp [expand] at h
    | text s =>
      rw [expand] at h
      refine forall_of_flatMapM (fun part _ cs hcs => ?_) h
      cases part with
      | literal t =>
        cases hcs
        exact List.forall_mem_singleton.2 ⟨_, rfl⟩
      | strayPercent rest => cases hcs
      | openReference rest => cases hcs
      | reference name =>
        simp only at hcs
        cases hfind : find? (lower (String.ofList name)) with
        | none => simp [hfind] at hcs
        | some v =>
          rw [hfind] at hcs
          simp only at hcs
          split at hcs
          · exact ih hcs
          · cases hcs
            exact List.forall_mem_singleton.2 (hfound _ v hfind)

/-- Texts can be put together. -/
private theorem exists_joinPieces {pieces : List RawValue} (h : ∀ piece ∈ pieces, piece.IsText)
    (before : String) (index : Nat) : ∃ s, joinPieces before index pieces = .ok s := by
  -- on the pieces, each of which is appended
  induction pieces generalizing before index with
  | nil => exact ⟨before, rfl⟩
  | cons piece pieces ih =>
    obtain ⟨s, rfl⟩ := h piece List.mem_cons_self
    exact ih (fun piece' hpiece' => h piece' (List.mem_cons_of_mem _ hpiece')) (before ++ s) (index + 1)

namespace Document

variable {d : Document}

/-- All values are texts. -/
def OfTexts (d : Document) : Prop := d.Every (fun _ => True) fun _ v => v.IsText

/-- A document whose lines are put together has texts only. -/
private theorem ofTexts_settle (d : Document) : d.settle.OfTexts :=
  Every.settle ⟨fun _ _ => trivial, fun e _ => isText_settle e.2, fun _ _ e _ => isText_settle e.2⟩

/-- A source that is read to its end leaves texts. -/
theorem ofTexts_readLines {d' : Document} {source : String} {lines : List (List Char)}
    (h : d.readLines source lines = (.ok (), d')) : d'.OfTexts := by
  unfold readLines at h
  split at h
  · cases congrArg Prod.fst h
  · obtain rfl := congrArg Prod.snd h
    exact ofTexts_settle _

/-- What is true of all options is true of one that is found. -/
theorem Every.find? {N : String → Prop} {P : String → RawValue → Prop} (h : d.Every N P)
    {name key : String} {v : RawValue} (hv : d.find? name key = some v) : P key v := by
  unfold Document.find? at hv
  -- an own option comes before a default
  split at hv
  · rename_i own hown
    obtain rfl := Option.some.inj hv
    obtain ⟨t, ht, hkey⟩ := Option.bind_eq_some_iff.1 hown
    exact h.sections _ (OrderedMap.mem_entries_of_get? ht) _ (OrderedMap.mem_entries_of_get? hkey)
  · exact h.defaults _ (OrderedMap.mem_entries_of_get? hv)

/-- What is found is found under its name in lower case. -/
private theorem find?_of_raw {name option : String} {v : RawValue} (h : d.raw name option = .ok v) :
    d.find? name (lower option) = some v := by
  unfold raw at h
  split at h
  · cases h
  · simp only at h
    split at h
    · rename_i hfind
      obtain rfl := Except.ok.inj h
      exact hfind
    · cases h

/-- What is not found is missing. -/
theorem isMissing_raw {name option : String} {e : Error} (h : d.raw name option = .error e) :
    e.isMissing = true := by
  unfold raw at h
  split at h
  · cases h
    rfl
  · simp only at h
    split at h
    · cases h
    · cases h
      rfl

/-- An option that is not found has no text. -/
theorem get_of_raw_error {name option : String} {e : Error} (h : d.raw name option = .error e) :
    d.get name option = .error e := by
  rw [get, h]
  rfl

/-- An option that is found has a text if its value can be followed, and else a reference breaks. -/
theorem get_of_raw (h : d.OfTexts) {name option : String} {v : RawValue}
    (hraw : d.raw name option = .ok v) :
    (Followable (d.find? name) maxDepth v ∧ ∃ s, d.get name option = .ok s) ∨
      (¬ Followable (d.find? name) maxDepth v ∧
        ∃ e, e.BreaksReference ∧ d.get name option = .error e) := by
  have hfound : ∀ key w, d.find? name key = some w → w.IsText := fun _ _ hw => Every.find? h hw
  obtain ⟨s, rfl⟩ := hfound _ v (find?_of_raw hraw)
  have hget : d.get name option =
      expand (d.find? name) ⟨name, lower option, s⟩ maxDepth (.text s) >>= joinPieces "" 0 := by
    rw [get, hraw]
    rfl
  -- the pieces are texts and can be put together, so only what yields them may fail
  cases hexpand : expand (d.find? name) ⟨name, lower option, s⟩ maxDepth (.text s) with
  | ok pieces =>
    obtain ⟨text, htext⟩ := exists_joinPieces (isText_expand hfound hexpand) "" 0
    exact .inl ⟨expand_isOk_iff.1 ⟨pieces, hexpand⟩, text, by rw [hget, hexpand]; exact htext⟩
  | error e =>
    have hbreaks : e.BreaksReference := by
      refine (error_expand hfound ⟨s, rfl⟩ hexpand).resolve_right ?_
      rintro ⟨-, ls, text, htext⟩
      cases htext
    refine .inr ⟨fun hfollow => ?_, e, hbreaks, by rw [hget, hexpand]; rfl⟩
    obtain ⟨pieces, hpieces⟩ := expand_isOk_iff.2 hfollow
    cases hexpand.symm.trans hpieces

end Document

end Ini

end JavaFragments
