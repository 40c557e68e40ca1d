import JavaFragments.Fragment.Call
import JavaFragments.Proofs.Naming.IssuedName

/-! # What the text of a call tells

The text of a call is a type, if the call declares its variable, and then names with
delimiters between them, perhaps inside a block.  As names are words, in which no delimiter
can be, the text tells all of this:

* `IsWord`             what is a name
* `CallWords.text`     the text of a call by its names
* `intercalate_inj`    a list is told by its items with delimiters between them
* `statement_inj`      an assignment tells the names in it
* `text_inj`           so does a call, and it tells whether it is wrapped as well -/

namespace JavaFragments.Session

open Fragment

/-! ## Words -/

/-- A letter, a digit, an underscore or a dollar sign.  All characters beyond ASCII are taken for
    letters. -/
def IsWordChar (c : Char) : Prop := c.isAlphanum ∨ c = '_' ∨ c = '$' ∨ 128 ≤ c.toNat

instance : DecidablePred IsWordChar := fun _ => inferInstanceAs (Decidable (_ ∨ _))

/-- A text that can be a name. -/
structure IsWord (s : String) : Prop where
  ne_empty : s ≠ ""
  chars : ∀ c ∈ s.toList, IsWordChar c

instance (s : String) : Decidable (IsWord s) :=
  decidable_of_iff (s ≠ "" ∧ s.toList.all (fun c => decide (IsWordChar c)) = true)
    ⟨fun ⟨hne, hall⟩ => ⟨hne, fun c hc => of_decide_eq_true (List.all_eq_true.1 hall c hc)⟩,
      fun h => ⟨h.ne_empty, List.all_eq_true.2 fun c hc => decide_eq_true (h.chars c hc)⟩⟩

/-- A delimiter is in no word. -/
private theorem IsWord.not_mem {s : String} (h : IsWord s) {c : Char} (hc : ¬ IsWordChar c) :
    c ∉ s.toList := fun hmem => hc (h.chars c hmem)

/-- A word has a first character. -/
theorem IsWord.exists_cons {s : String} (h : IsWord s) :
    ∃ c rest, s.toList = c :: rest ∧ IsWordChar c := by
  -- a word is not empty
  cases hs : s.toList with
  | nil => exact absurd (String.toList_inj.1 hs) h.ne_empty
  | cons c rest => exact ⟨c, rest, rfl, h.chars c (hs ▸ List.mem_cons_self)⟩

/-- The types of the Java language are words. -/
private theorem isWord_javaName (k : Kind) : IsWord k.javaName := by cases k <;> decide

/-! ## The text of a call -/

/-- What a call is about, as far as its text can tell. -/
structure CallWords where
  /-- The type of the variable, if the call declares it. -/
  declares? : Option Kind
  target : String
  owner : String
  method : String
  args : List String
deriving DecidableEq, Repr

namespace CallWords

/-- The type and a blank, where there is a type. -/
def typeText (n : CallWords) : String := n.declares?.elim "" fun k => k.javaName ++ " "

/-- The assignment without anything around it. -/
def statement (n : CallWords) : String :=
  n.typeText ++ n.target ++ " = " ++ n.owner ++ "." ++ n.method ++ "(" ++
    String.intercalate ", " n.args ++ ");"

/-- The call, which is wrapped or bare. -/
def text (n : CallWords) (isWrapped : Bool) : String :=
  if isWrapped then wrapped n.statement else n.statement

/-- All names are words. -/
structure AreWords (n : CallWords) : Prop where
  target : IsWord n.target
  owner : IsWord n.owner
  method : IsWord n.method
  args : ∀ s ∈ n.args, IsWord s

end CallWords

/-! ## Arguments -/

/-- A list is told by its items with delimiters between them, if none of them is empty or has the
    start of the delimiter in it. -/
theorem intercalate_inj {α : Type} {c : α} {sep : List α} {as bs : List (List α)}
    (ha : ∀ a ∈ as, a ≠ [] ∧ c ∉ a) (hb : ∀ b ∈ bs, b ≠ [] ∧ c ∉ b)
    (h : (c :: sep).intercalate as = (c :: sep).intercalate bs) : as = bs := by
  -- on one of the lists; the first delimiter ends the first item, and there is none behind the last
  induction as generalizing bs with
  | nil =>
    cases bs with
    | nil => rfl
    | cons b bs =>
      have hne := (hb b List.mem_cons_self).1
      cases bs <;> simp_all [List.intercalate_cons_cons]
  | cons a as ih =>
    cases bs with
    | nil =>
      have hne := (ha a List.mem_cons_self).1
      cases as <;> simp_all [List.intercalate_cons_cons]
    | cons b bs =>
      obtain ⟨⟨-, hca⟩, has⟩ := List.forall_mem_cons.1 ha
      obtain ⟨⟨-, hcb⟩, hbs⟩ := List.forall_mem_cons.1 hb
      cases as with
      | nil =>
        cases bs with
        | nil => rw [List.intercalate_singleton, List.intercalate_singleton] at h; rw [h]
        | cons b' bs =>
          rw [List.intercalate_singleton, List.intercalate_cons_cons] at h
          exact absurd (h ▸ by simp) hca
      | cons a' as =>
        cases bs with
        | nil =>
          rw [List.intercalate_singleton, List.intercalate_cons_cons] at h
          exact absurd (h ▸ by simp) hcb
        | cons b' bs =>
          rw [List.intercalate_cons_cons, List.intercalate_cons_cons, List.append_assoc,
            List.append_assoc] at h
          obtain ⟨rfl, hrest⟩ := split_at_first hca hcb h
          rw [ih has hbs (List.append_cancel_left hrest)]

/-- An argument list tells the arguments. -/
private theorem argumentText_inj {as bs : List String} (ha : ∀ s ∈ as, IsWord s)
    (hb : ∀ s ∈ bs, IsWord s)
    (h : (String.intercalate ", " as).toList = (String.intercalate ", " bs).toList) : as = bs := by
  -- a comma is in no word, and no word is empty
  have hitems : ∀ {ss : List String}, (∀ s ∈ ss, IsWord s) →
      ∀ cs ∈ ss.map String.toList, cs ≠ [] ∧ ',' ∉ cs := by
    intro ss hss cs hcs
    obtain ⟨s, hs, rfl⟩ := List.mem_map.1 hcs
    exact ⟨fun hnil => (hss s hs).ne_empty (String.toList_inj.1 hnil),
      (hss s hs).not_mem (by decide)⟩
  have hchars : (',' :: [' ']).intercalate (as.map String.toList) =
      (',' :: [' ']).intercalate (bs.map String.toList) := by
    rwa [String.toList_intercalate, String.toList_intercalate] at h
  exact (List.map_inj_right fun _ _ => String.toList_inj.1).1
    (intercalate_inj (hitems ha) (hitems hb) hchars)

/-- The end of an argument list is in none of its names. -/
private theorem not_mem_argumentText {as : List String} (h : ∀ s ∈ as, IsWord s) :
    ')' ∉ (String.intercalate ", " as).toList := by
  induction as with
  | nil => simp
  | cons a as ih =>
    obtain ⟨ha, has⟩ := List.forall_mem_cons.1 h
    have hname := ha.not_mem (c := ')') (by decide)
    cases as with
    | nil => simpa using hname
    | cons b bs => simpa [hname] using ih has

/-! ## Assignments and calls -/

namespace CallWords

/-- The characters of the call that is assigned. -/
def callChars (n : CallWords) : List Char :=
  n.owner.toList ++ '.' :: (n.method.toList ++
    '(' :: ((String.intercalate ", " n.args).toList ++ [')', ';']))

/-- The characters of the assignment, without the type. -/
def assignedChars (n : CallWords) : List Char :=
  n.target.toList ++ ' ' :: '=' :: ' ' :: n.callChars

variable {m n : CallWords}

/-- The characters of an assignment: a blank ends the type, if there is one, and the target. -/
private theorem toList_statement (n : CallWords) :
    n.statement.toList =
      n.declares?.elim n.assignedChars fun k => k.javaName.toList ++ ' ' :: n.assignedChars := by
  -- with a type and without one
  cases h : n.declares? <;>
    simp [statement, typeText, h, assignedChars, callChars]

/-- The characters of a wrapped call. -/
private theorem toList_text_wrapped (n : CallWords) :
    (n.text true).toList = "try".toList ++ ' ' :: '\x7b' :: '\n' ::
      (n.statement.toList ++ "\n\x7d catch (Exception ignored) \x7b\x7d\n".toList) := by
  simp [text, wrapped]

/-- A call tells its method and its arguments. -/
theorem callChars_inj (hm : m.AreWords) (hn : n.AreWords) (h : m.callChars = n.callChars) :
    m.owner = n.owner ∧ m.method = n.method ∧ m.args = n.args := by
  have hdot : ¬ IsWordChar '.' := by decide
  have hopen : ¬ IsWordChar '(' := by decide
  -- the dot ends the class, the bracket the method
  obtain ⟨howner, hrest⟩ := split_at_first (hm.owner.not_mem hdot) (hn.owner.not_mem hdot) h
  obtain ⟨hmethod, hrest⟩ :=
    split_at_first (hm.method.not_mem hopen) (hn.method.not_mem hopen) hrest
  obtain ⟨hargs, -⟩ :=
    split_at_first (not_mem_argumentText hm.args) (not_mem_argumentText hn.args) hrest
  exact ⟨String.toList_inj.1 howner, String.toList_inj.1 hmethod,
    argumentText_inj hm.args hn.args hargs⟩

/-- An assignment tells its target and its call. -/
private theorem assignedChars_inj (hm : m.AreWords) (hn : n.AreWords)
    (h : m.assignedChars = n.assignedChars) :
    m.target = n.target ∧ m.owner = n.owner ∧ m.method = n.method ∧ m.args = n.args := by
  have hblank : ¬ IsWordChar ' ' := by decide
  obtain ⟨htarget, hrest⟩ := split_at_first (hm.target.not_mem hblank) (hn.target.not_mem hblank) h
  have hcall : m.callChars = n.callChars := (List.cons.inj (List.cons.inj hrest).2).2
  exact ⟨String.toList_inj.1 htarget, callChars_inj hm hn hcall⟩

/-- Behind the first blank of an assignment is the sign of the assignment if no type is before it,
    and else the target. -/
private theorem exists_first_blank (h : n.AreWords) :
    ∃ first c rest, n.statement.toList = first ++ ' ' :: c :: rest ∧ ' ' ∉ first ∧
      ((n.declares? = none ∧ c = '=') ∨ (n.declares? ≠ none ∧ IsWordChar c)) := by
  have hblank : ¬ IsWordChar ' ' := by decide
  rw [toList_statement]
  cases n.declares? with
  | none => exact ⟨_, _, _, rfl, h.target.not_mem hblank, .inl ⟨rfl, rfl⟩⟩
  | some k =>
    obtain ⟨c, rest, hc, hword⟩ := h.target.exists_cons
    refine ⟨_, c, rest ++ ' ' :: '=' :: ' ' :: n.callChars, ?_, (isWord_javaName k).not_mem hblank,
      .inr ⟨nofun, hword⟩⟩
    rw [Option.elim_some, assignedChars, hc, List.cons_append]

/-- An assignment tells whether it declares its target, with what type, and all names in it. -/
theorem statement_inj (hm : m.AreWords) (hn : n.AreWords) (h : m.statement = n.statement) :
    m = n := by
  have hlist := congrArg String.toList h
  obtain ⟨_, c, _, hfirst, hnot, hc⟩ := exists_first_blank hm
  obtain ⟨_, d, _, hfirst', hnot', hd⟩ := exists_first_blank hn
  -- the character behind the first blank is the same, so that both have a type or none has
  obtain ⟨-, hcd⟩ := split_at_first hnot hnot' (hfirst.symm.trans (hlist.trans hfirst'))
  obtain ⟨rfl, -⟩ := List.cons.inj hcd
  have hsign : ¬ IsWordChar '=' := by decide
  rw [toList_statement, toList_statement] at hlist
  obtain ⟨mtype, mtarget, mowner, mmethod, margs⟩ := m
  obtain ⟨ntype, ntarget, nowner, nmethod, nargs⟩ := n
  cases mtype with
  | none =>
    cases ntype with
    | none =>
      obtain ⟨rfl, rfl, rfl, rfl⟩ := assignedChars_inj hm hn hlist
      rfl
    | some k =>
      obtain ⟨-, rfl⟩ : _ ∧ c = '=' := hc.resolve_right fun hword => hword.1 rfl
      exact absurd (hd.resolve_left nofun).2 hsign
  | some k =>
    cases ntype with
    | none =>
      obtain ⟨-, rfl⟩ : _ ∧ c = '=' := hd.resolve_right fun hword => hword.1 rfl
      exact absurd (hc.resolve_left nofun).2 hsign
    | some l =>
      have hblank : ¬ IsWordChar ' ' := by decide
      -- both declare: the blank ends the type
      obtain ⟨htype, hrest⟩ := split_at_first ((isWord_javaName k).not_mem hblank)
        ((isWord_javaName l).not_mem hblank) hlist
      obtain rfl := Kind.javaName_injective (String.toList_inj.1 htype)
      obtain ⟨rfl, rfl, rfl, rfl⟩ := assignedChars_inj hm hn hrest
      rfl

/-- The text of a bare call is not that of a wrapped one. -/
private theorem text_ne_wrapped (hm : m.AreWords) : m.text false ≠ n.text true := by
  intro h
  have hlist := congrArg String.toList h
  obtain ⟨_, c, _, hfirst, hnot, hc⟩ := exists_first_blank hm
  rw [toList_text_wrapped, show m.text false = m.statement from rfl, hfirst] at hlist
  -- a brace is behind the first blank of a wrapped call
  obtain ⟨-, hrest⟩ := split_at_first hnot (by decide) hlist
  obtain ⟨rfl, -⟩ := List.cons.inj hrest
  rcases hc with ⟨-, hsign⟩ | ⟨-, hword⟩
  · exact absurd hsign (by decide)
  · exact absurd hword (by decide)

/-- The text of a call tells all that it is about, and whether it is wrapped. -/
theorem text_inj (hm : m.AreWords) (hn : n.AreWords) {b c : Bool} (h : m.text b = n.text c) :
    b = c ∧ m = n := by
  cases b with
  | false =>
    cases c with
    | false => exact ⟨rfl, statement_inj hm hn h⟩
    | true => exact absurd h (text_ne_wrapped hm)
  | true =>
    cases c with
    | false => exact absurd h.symm (text_ne_wrapped hn)
    | true =>
      -- both are wrapped: what is around them is the same
      have hstart : "try \x7b\n" ++ m.statement = "try \x7b\n" ++ n.statement :=
        (String.append_left_inj _).1 h
      exact ⟨rfl, statement_inj hm hn ((String.append_right_inj _).1 hstart)⟩

end CallWords

end JavaFragments.Session
