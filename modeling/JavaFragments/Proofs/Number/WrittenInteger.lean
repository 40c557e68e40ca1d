import JavaFragments.Number.Numeral
import Mathlib.Algebra.Group.Nat.Defs

/-! # Integers that are read as they are written

An integer is written with the digits of its magnitude, the sign before them if it is
negative.  Nothing in that is white space, an underscore or the mark of a base, and a zero
stands in front only if it is the whole number:

* `toList_toString_int`   the characters of a written integer
* `readDigits_digits`     a run of digits is read as the number it denotes
* `toString_int_inj`      different integers are written differently
* `readInt_toString`      an integer is read back, whether its base may be marked or not -/

namespace JavaFragments.Number

open Text

/-! ## Runs of digits -/

/-- The digits stand in a row in ASCII. -/
theorem toNat_of_isDigit {c : Char} (h : c.isDigit) : 48 ≤ c.toNat ∧ c.toNat ≤ 57 := by
  simpa [Char.isDigit, UInt32.le_iff_toNat_le] using h

/-- The value of a digit is its place in that row. -/
private theorem digitOf_of_isDigit {c : Char} (h : c.isDigit) : digitOf c = c.toNat - 48 := by
  have hrange : '0' ≤ c ∧ c ≤ '9' := by
    simpa [Char.isDigit, Char.le_def] using h
  rw [digitOf, if_pos hrange]

/-- It is below ten. -/
private theorem digitOf_lt {c : Char} (h : c.isDigit) : digitOf c < 10 := by
  have hrange := toNat_of_isDigit h
  rw [digitOf_of_isDigit h]
  omega

/-- A digit is none of the other characters. -/
theorem ne_of_isDigit {c d : Char} (h : c.isDigit) (hd : d.isDigit = false) : c ≠ d := by
  rintro rfl
  rw [h] at hd
  cases hd

/-- Digits without underscores are kept as they are. -/
private theorem groupedDigits_digits {ds : List Char} (h : ∀ c ∈ ds, c.isDigit) :
    groupedDigits? 10 ds = some ds := by
  -- on the digits; no underscore comes after any of them
  induction ds with
  | nil => rfl
  | cons c ds ih =>
    obtain ⟨hc, hds⟩ := List.forall_mem_cons.1 h
    have hlt := digitOf_lt hc
    cases ds with
    | nil => simp [groupedDigits?, hlt]
    | cons d ds =>
      have hd : d ≠ '_' := ne_of_isDigit (hds d List.mem_cons_self) (by decide)
      rw [groupedDigits?.eq_def]
      simp [hlt, ih hds, hd]

/-- The number that digits denote is the one that has these digits. -/
theorem ofDigits_eq_ofDigitChars {ds : List Char} (h : ∀ c ∈ ds, c.isDigit) :
    ofDigits 10 ds = Nat.ofDigitChars 10 ds 0 := by
  suffices hfold : ∀ start, ds.foldl (fun n c => n * 10 + digitOf c) start =
      Nat.ofDigitChars 10 ds start from hfold 0
  induction ds with
  | nil => exact fun start => Nat.ofDigitChars_nil.symm
  | cons c ds ih =>
    intro start
    obtain ⟨hc, hds⟩ := List.forall_mem_cons.1 h
    rw [List.foldl_cons, ih hds, Nat.ofDigitChars_cons, digitOf_of_isDigit hc, Nat.mul_comm]
    rfl

/-- A run of digits that is not too long is read as the number it denotes. -/
theorem readDigits_digits {ds : List Char} (h : ∀ c ∈ ds, c.isDigit) (hne : ds ≠ [])
    (hlen : ds.length ≤ maxDigits) (bad : NotANumeral) :
    readDigits bad 10 ds = .ok (Nat.ofDigitChars 10 ds 0) := by
  have hrun : ds.takeWhile (fun c => digitOf c < 10 ∨ c = '_') = ds := by
    have hall : ∀ c ∈ ds, decide (digitOf c < 10 ∨ c = '_') = true := fun c hc => by
      simp [digitOf_lt (h c hc)]
    rw [← List.append_nil ds, List.takeWhile_append_of_pos hall, List.takeWhile_nil]
  simp only [readDigits, hrun, groupedDigits_digits h, ofLongDigits_eq, ofDigits_eq_ofDigitChars h]
  simp [hne, Nat.not_lt.2 hlen]

/-! ## Characters of numerals -/

/-- Characters of ASCII without white space among them are those of the numeral. -/
private theorem numeralChars_eq {s : String}
    (h : ∀ c ∈ s.toList, c.toNat < 128 ∧ isAsciiBlank c = false) :
    numeralChars s = s.toList := by
  have hmap : s.toList.map toAscii = s.toList := by
    rw [List.map_congr_left (g := id), List.map_id]
    intro c hc
    rw [toAscii, if_pos (h c hc).1, id]
  -- neither at the start nor at the end
  have hdrop : ∀ t : List Char, (∀ c ∈ t, c ∈ s.toList) → t.dropWhile isAsciiBlank = t := by
    intro t ht
    cases t with
    | nil => rfl
    | cons c t =>
      rw [List.dropWhile_cons_of_neg (by simp [(h c (ht c List.mem_cons_self)).2])]
  simp only [numeralChars, hmap]
  rw [hdrop _ fun c hc => hc, hdrop _ fun c hc => List.mem_reverse.1 hc, List.reverse_reverse]

/-- Digits have no mark of a base. -/
private theorem splitMark_digits {ds : List Char} (h : ∀ c ∈ ds, c.isDigit) :
    splitMark ds = (10, ds) := by
  unfold splitMark
  split
  · rename_i m r
    have hm : m.isDigit := h m (by simp)
    have hx : ∀ d : Char, d.isDigit = false → m ≠ d := fun d => ne_of_isDigit hm
    simp [hx 'x' (by decide), hx 'X' (by decide), hx 'o' (by decide), hx 'O' (by decide),
      hx 'b' (by decide), hx 'B' (by decide)]
  · rfl

/-- Digits have no sign. -/
private theorem splitSign_digits {ds : List Char} (h : ∀ c ∈ ds, c.isDigit) :
    splitSign ds = (false, ds) := by
  unfold splitSign
  split
  · exact absurd (h _ List.mem_cons_self) (by decide)
  · exact absurd (h _ List.mem_cons_self) (by decide)
  · rfl

/-- The first digit of a number is zero only if the number is. -/
theorem eq_zero_of_head_toDigits {n : Nat} (h : (Nat.toDigits 10 n).head? = some '0') : n = 0 := by
  -- on the number, as its first digit is that of a tenth of it
  induction n using Nat.strongRecOn with
  | ind n ih =>
    by_cases hlt : n < 10
    · rw [Nat.toDigits_of_lt_base hlt, List.head?_cons, Option.some.injEq] at h
      have hcode := Nat.toNat_digitChar_of_lt_ten hlt
      rw [h] at hcode
      have hzero : '0'.toNat = 48 := rfl
      omega
    · have hle : 10 ≤ n := Nat.le_of_not_lt hlt
      -- the digits before the last one are those of a tenth
      obtain ⟨c, s, hs⟩ := List.exists_cons_of_ne_nil (Nat.toDigits_ne_nil (n := n / 10) (b := 10))
      rw [Nat.toDigits_of_base_le (by decide) hle, hs, List.cons_append, List.head?_cons] at h
      have hquotient := ih (n / 10) (by omega) (by rw [hs, List.head?_cons, h])
      omega

/-! ## Integers -/

/-- An integer is short enough to be written. -/
def Fits (n : Int) : Prop := n.natAbs < 10 ^ maxDigits

instance (n : Int) : Decidable (Fits n) := inferInstanceAs (Decidable (_ < _))

/-- An integer that is short enough is written. -/
theorem writeInt_of_fits {n : Int} (h : Fits n) : writeInt n = .ok (toString n) := if_pos h

/-- The integers that can be written are those that are short enough. -/
theorem writeInt_eq_ok_iff {n : Int} : (∃ s, writeInt n = .ok s) ↔ Fits n := by
  constructor
  · rintro ⟨s, hs⟩
    unfold writeInt at hs
    split at hs
    · assumption
    · cases hs
  · exact fun h => ⟨_, writeInt_of_fits h⟩

/-- Whatever lies between two integers that are short enough is short enough. -/
theorem fits_of_between {low high n : Int} (hlow : Fits low) (hhigh : Fits high) (h : low ≤ n)
    (h' : n ≤ high) : Fits n := by
  have hle : n.natAbs ≤ max low.natAbs high.natAbs := by omega
  exact Nat.lt_of_le_of_lt hle (Nat.max_lt.2 ⟨hlow, hhigh⟩)

/-- The characters of a written integer. -/
theorem toList_toString_int (n : Int) :
    (toString n).toList =
      (if n < 0 then ['-'] else []) ++ Nat.toDigits 10 n.natAbs := by
  rw [Int.toString_eq_repr, Int.repr_eq_if]
  -- a sign is written only before a negative number
  by_cases h : 0 ≤ n
  · have habs : n.natAbs = n.toNat := by omega
    rw [if_pos h, if_neg (by omega), habs]
    exact Nat.toList_repr
  · have habs : n.natAbs = (-n).toNat := by omega
    rw [if_neg h, if_pos (by omega), habs, String.toList_append, Nat.toList_repr]
    rfl

/-- A written integer consists of digits and perhaps a sign. -/
theorem mem_toString_int {n : Int} {c : Char} (h : c ∈ (toString n).toList) :
    c = '-' ∨ c.isDigit := by
  rw [toList_toString_int, List.mem_append] at h
  rcases h with h | h
  · split at h
    · exact .inl (List.mem_singleton.1 h)
    · cases h
  · exact .inr (Nat.isDigit_of_mem_toDigits (by decide) (by decide) h)

/-- Nothing has to be left out or exchanged in a written integer. -/
theorem numeralChars_toString (n : Int) : numeralChars (toString n) = (toString n).toList := by
  apply numeralChars_eq
  intro c hc
  rcases mem_toString_int hc with rfl | hdigit
  · decide
  · have hrange := toNat_of_isDigit hdigit
    have hblank : c ≠ ' ' := ne_of_isDigit hdigit (by decide)
    exact ⟨by omega, by simp [isAsciiBlank, hblank]; omega⟩

/-- The sign of a written integer, and its digits. -/
theorem splitSign_toString (n : Int) :
    splitSign (toString n).toList = (decide (n < 0), Nat.toDigits 10 n.natAbs) := by
  rw [toList_toString_int]
  by_cases hneg : n < 0
  · simp [hneg, splitSign]
  · have hdigits : ∀ c ∈ Nat.toDigits 10 n.natAbs, c.isDigit := fun c hc =>
      Nat.isDigit_of_mem_toDigits (by decide) (by decide) hc
    simp [hneg, splitSign_digits hdigits]

/-- Different integers are written differently. -/
theorem toString_int_inj {m n : Int} (h : toString m = toString n) : m = n := by
  have hsplit : (decide (m < 0), Nat.toDigits 10 m.natAbs) =
      (decide (n < 0), Nat.toDigits 10 n.natAbs) := by
    rw [← splitSign_toString, h, splitSign_toString]
  -- the same sign and the same digits
  obtain ⟨hsign, hdigits⟩ := Prod.mk.inj hsplit
  have habs : m.natAbs = n.natAbs := by
    rw [← Nat.ofDigitChars_ten_toDigits (n := m.natAbs), hdigits, Nat.ofDigitChars_ten_toDigits]
  have hneg : m < 0 ↔ n < 0 := decide_eq_decide.1 hsign
  omega

/-- A written integer that is not too long is read back, whether its base may be marked or
    not. -/
theorem readInt_toString {n : Int} (h : Fits n) (base : Base) :
    readInt base (toString n) = .ok n := by
  have hdigits : ∀ c ∈ Nat.toDigits 10 n.natAbs, c.isDigit := fun c hc =>
    Nat.isDigit_of_mem_toDigits (by decide) (by decide) hc
  have hread := readDigits_digits hdigits Nat.toDigits_ne_nil
    ((Nat.length_toDigits_le_iff (by decide) (by decide)).2 h)
    (.integer base (toString n))
  rw [Nat.ofDigitChars_ten_toDigits] at hread
  have hmark : (if base = .marked then splitMark (Nat.toDigits 10 n.natAbs)
      else (10, Nat.toDigits 10 n.natAbs)) = (10, Nat.toDigits 10 n.natAbs) := by
    rw [splitMark_digits hdigits, ite_self]
  -- a zero in front would be refused where the base may be marked
  have hfront : ¬ (base = .marked ∧ True ∧ (Nat.toDigits 10 n.natAbs).head? = some '0' ∧
      n.natAbs ≠ 0) := fun ⟨_, _, hhead, hne⟩ => hne (eq_zero_of_head_toDigits hhead)
  simp only [readInt, numeralChars_toString, splitSign_toString, hmark, hread, bind, Except.bind]
  rw [if_neg hfront]
  congr 1
  by_cases hneg : n < 0
  · simp only [hneg, decide_true, if_true]
    omega
  · simp only [hneg, decide_false, Bool.false_eq_true, if_false]
    omega

end JavaFragments.Number
