import JavaFragments.Proofs.Number.WrittenInteger
import JavaFragments.Session.Naming

/-! # Names that a session issues

Class names are numbered by the session; methods and fields are numbered by their class.
`IssuedName` holds the numbers of a name and `IssuedName.text` writes it:

* `text_injective`         different numbers are written differently, whatever they are for
* `memberText_injective`   so are the numbers of the members of one class of any name
* `lower_classNameOf`      a class name in lower case, as the names of members start -/

namespace JavaFragments.Session

open Text

/-- The members that a class numbers. -/
inductive MemberSort
  | method
  | field
deriving DecidableEq, Repr

namespace MemberSort

/-- The word for a sort in the names of its members. -/
def word : MemberSort → String
  | method => "method"
  | field => "field"

/-- The attribute of a class that holds the number of the next member of a sort. -/
def counter : MemberSort → Attribute
  | method => .methodCount
  | field => .fieldCount

/-- One number for methods and another one for fields. -/
def numbered (methods fields : Int) : MemberSort → Int
  | method => methods
  | field => fields

end MemberSort

/-- Allocates the name of a member of a sort. -/
def nextNameOf (s : MemberSort) (ref : ClassRef) : Action String :=
  nextMemberName ref s.word s.counter

/-- Methods are the members of their sort. -/
theorem nextNameOf_method : nextNameOf .method = nextMethodName := rfl

/-- Fields are the members of theirs. -/
theorem nextNameOf_field : nextNameOf .field = nextFieldName := rfl

/-- A name by its numbers: that of a class, or that of a member of a class. -/
inductive IssuedName
  | ofClass (i : Nat)
  | ofMember (s : MemberSort) (i k : Nat)
deriving DecidableEq, Repr

/-- The text of a name. -/
def IssuedName.text : IssuedName → String
  | ofClass i => classNameOf i
  | ofMember s i k => "class_" ++ toString i ++ "_" ++ s.word ++ "_" ++ toString k

/-! ## Decimal numerals in names -/

/-- The characters of a number are its decimal digits. -/
private theorem toList_toString (n : Nat) : (toString n).toList = Nat.toDigits 10 n := by simp

/-- Different numbers have different digits. -/
theorem toDigits_inj {m n : Nat} (h : Nat.toDigits 10 m = Nat.toDigits 10 n) : m = n := by
  rw [← Nat.ofDigitChars_ten_toDigits (n := m), h, Nat.ofDigitChars_ten_toDigits]

/-- A digit stays as it is in lower case. -/
private theorem toLower_of_isDigit {c : Char} (h : c.isDigit = true) :
    c.toLower = c ∧ c.toNat < 128 := by
  have hle : c.toNat ≤ 57 := by
    simp only [Char.isDigit, Bool.and_eq_true, decide_eq_true_eq] at h
    exact h.2
  have hupper : ¬ (65 ≤ c.toNat) := by omega
  refine ⟨?_, by omega⟩
  unfold Char.toLower
  split
  · rename_i h
    exact absurd h.1 hupper
  · rfl

/-- A class name in lower case. -/
theorem lower_classNameOf (i : Nat) : lower (classNameOf i) = "class_" ++ toString i := by
  have hchars : (classNameOf i).toList = "Class_".toList ++ Nat.toDigits 10 i := by
    rw [← toList_toString, ← String.toList_append]
    rfl
  have hdigit : ∀ c ∈ Nat.toDigits 10 i, c.toLower = c ∧ c.toNat < 128 := fun c hc =>
    toLower_of_isDigit (Nat.isDigit_of_mem_toDigits (by decide) (by decide) hc)
  -- neither the start nor a digit needs the table of letters beyond ASCII
  have hascii : ∀ c ∈ (classNameOf i).toList, c.toNat < 128 := by
    intro c hc
    rw [hchars, List.mem_append] at hc
    rcases hc with hc | hc
    · have hstart : ("Class_".toList.all fun c => c.toNat < 128) = true := by decide
      exact of_decide_eq_true (List.all_eq_true.1 hstart c hc)
    · exact (hdigit c hc).2
  apply String.toList_inj.1
  rw [lower, lowerFrom_of_ascii hascii, hchars, List.map_append, String.toList_append,
    toList_toString, String.toList_ofList]
  congr 1
  exact (List.map_congr_left fun c hc => (hdigit c hc).1).trans (List.map_id' _)

/-- The name of a member of a class, whatever name the class has. -/
def memberText (className : String) (s : MemberSort) (n : Int) : String :=
  lower className ++ "_" ++ s.word ++ "_" ++ toString n

/-- The members of a class with an allocated name have names of that form. -/
theorem memberText_classNameOf (i : Nat) (s : MemberSort) {n : Int} (h : 0 ≤ n) :
    memberText (classNameOf i) s n = (IssuedName.ofMember s i n.toNat).text := by
  obtain ⟨k, rfl⟩ := Int.eq_ofNat_of_zero_le h
  rw [memberText, lower_classNameOf]
  rfl

/-! ## Different names have different texts -/

/-- Members of one class have different names if they have different numbers. -/
theorem memberText_injective {className : String} {s : MemberSort} {m n : Int}
    (h : memberText className s m = memberText className s n) : m = n :=
  Number.toString_int_inj ((String.append_right_inj _).1 h)

/-- What stands before and behind the first `c` of a text is determined by the text. -/
theorem split_at_first {α : Type} {c : α} {as bs xs ys : List α} (ha : c ∉ as) (hx : c ∉ xs)
    (h : as ++ c :: bs = xs ++ c :: ys) : as = xs ∧ bs = ys := by
  -- the texts agree up to the first `c`, and neither has one before it
  induction as generalizing xs with
  | nil =>
    cases xs with
    | nil => exact ⟨rfl, (List.cons.inj h).2⟩
    | cons x xs => exact absurd ((List.cons.inj h).1 ▸ List.mem_cons_self) hx
  | cons a as ih =>
    cases xs with
    | nil => exact absurd ((List.cons.inj h).1 ▸ List.mem_cons_self) ha
    | cons x xs =>
      obtain ⟨hax, hrest⟩ := List.cons.inj h
      have ha' : c ∉ as := fun m => ha (List.mem_cons_of_mem _ m)
      have hx' : c ∉ xs := fun m => hx (List.mem_cons_of_mem _ m)
      obtain ⟨has, hbs⟩ := ih ha' hx' hrest
      exact ⟨by rw [hax, has], hbs⟩

/-- A class name is a fixed start with a number behind it. -/
theorem toList_text_ofClass (i : Nat) :
    (IssuedName.ofClass i).text.toList = "Class_".toList ++ Nat.toDigits 10 i := by
  rw [← toList_toString, ← String.toList_append]
  rfl

/-- The name of a member is a fixed start with two numbers and a word between underscores. -/
private theorem toList_text_ofMember (s : MemberSort) (i k : Nat) :
    (IssuedName.ofMember s i k).text.toList =
      "class_".toList ++
        (Nat.toDigits 10 i ++ '_' :: (s.word.toList ++ '_' :: Nat.toDigits 10 k)) := by
  simp [IssuedName.text]

/-- The names of members are written differently if they differ in anything. -/
private theorem text_ofMember_inj {s t : MemberSort} {i j k l : Nat}
    (h : (IssuedName.ofMember s i k).text = (IssuedName.ofMember t j l).text) :
    s = t ∧ i = j ∧ k = l := by
  have hlist := congrArg String.toList h
  rw [toList_text_ofMember, toList_text_ofMember] at hlist
  have hsplit := List.append_cancel_left hlist
  -- the first underscore ends the number of the class, the next one the word
  obtain ⟨hi, hrest⟩ :=
    split_at_first Nat.underscore_not_in_toDigits Nat.underscore_not_in_toDigits hsplit
  have hword : ∀ s : MemberSort, '_' ∉ s.word.toList := by intro s; cases s <;> decide
  obtain ⟨hs, hk⟩ := split_at_first (hword s) (hword t) hrest
  refine ⟨?_, toDigits_inj hi, toDigits_inj hk⟩
  -- the two words differ
  cases s <;> cases t <;> first | rfl | exact absurd hs (by decide)

/-- Different names have different texts. -/
theorem text_injective {a b : IssuedName} (h : a.text = b.text) : a = b := by
  have hlist := congrArg String.toList h
  cases a with
  | ofClass i =>
    cases b with
    | ofClass j =>
      rw [toList_text_ofClass, toList_text_ofClass] at hlist
      rw [toDigits_inj (List.append_cancel_left hlist)]
    | ofMember t j l =>
      -- a class name starts with a capital and the name of a member does not
      rw [toList_text_ofClass, toList_text_ofMember] at hlist
      exact absurd (List.cons.inj hlist).1 (by decide)
  | ofMember s i k =>
    cases b with
    | ofClass j =>
      rw [toList_text_ofClass, toList_text_ofMember] at hlist
      exact absurd (List.cons.inj hlist).1 (by decide)
    | ofMember t j l =>
      obtain ⟨rfl, rfl, rfl⟩ := text_ofMember_inj h
      rfl

end JavaFragments.Session
