import Mathlib.Data.Set.Operations
import JavaFragments.Proofs.Text.LiteralRoundTrip

/-! # Escaping sees code units only

A text is escaped code unit by code unit: what stands for a code point beyond the 16-bit range
is what stands for its two surrogates, one after the other.  As the code units can be read back
from what is escaped, two texts are escaped alike if they have the same code units and only then.

* `escape_eq_flatMap`      a text is escaped code unit by code unit
* `utf16_inj`              texts without surrogates have code units of their own
* `mem_escape_printable`   what is escaped is printable
* `escape_unitwise`        all of this together -/

namespace JavaFragments.Text

open Source

/-! ## Code unit by code unit -/

/-- A code unit as a code point. -/
def CodePoint.ofUnit (u : CodeUnit) : CodePoint where
  val := u.toNat
  isLt := Nat.lt_trans u.toNat_lt (by decide)

/-- What stands for a code unit inside a Java literal. -/
def escapeUnit (u : CodeUnit) : List Char := escapeCodePoint (.ofUnit u)

/-- A code point is known by its number. -/
private theorem CodePoint.eq_of_val {p q : CodePoint} (h : p.val = q.val) : p = q := by
  cases p
  cases q
  cases h
  rfl

/-- A number of 16 bits is that of a code unit. -/
private theorem ofUnit_ofNat {n : Nat} (h : n < 0x10000) :
    (CodePoint.ofUnit (UInt16.ofNat n)).val = n := UInt16.toNat_ofNat_of_lt' h

/-- A surrogate is escaped by its number. -/
private theorem escapeUnit_surrogate {n : Nat} (hlow : 0xD800 ≤ n) (hhigh : n ≤ 0xDFFF) :
    escapeUnit (UInt16.ofNat n) = unicodeEscape n := by
  have hval : (CodePoint.ofUnit (UInt16.ofNat n)).val = n := ofUnit_ofNat (by omega)
  have hdelim : isDelimiter n = false := by
    rw [Bool.eq_false_iff, Ne, isDelimiter_iff]
    omega
  have hnamed : namedEscape? n = none := by
    rw [Option.eq_none_iff_forall_ne_some]
    intro c hc
    have := eq_of_namedEscape? hc
    omega
  have hprint : ¬ (32 ≤ n ∧ n ≤ 126) := by omega
  have hsmall : n ≤ 0xFFFF := by omega
  -- neither quote, backslash, control character nor printable
  simp only [escapeUnit, escapeCodePoint, hval, hdelim, hnamed, hprint, hsmall, if_true, if_false,
    Bool.false_eq_true]

/-- A code point is escaped as its code units are. -/
theorem escapeCodePoint_eq_flatMap (p : CodePoint) :
    escapeCodePoint p = p.units.flatMap escapeUnit := by
  -- one code unit or two
  by_cases hsmall : p.val ≤ 0xFFFF
  · have hunit : CodePoint.ofUnit (UInt16.ofNat p.val) = p :=
      CodePoint.eq_of_val (ofUnit_ofNat (Nat.lt_succ_of_le hsmall))
    rw [CodePoint.units, if_pos hsmall, List.flatMap_singleton, escapeUnit, hunit]
  · have hp := p.isLt
    -- both halves are surrogates, so each is escaped by its number
    have hhigh : 0xD800 ≤ highSurrogate p.val ∧ highSurrogate p.val ≤ 0xDFFF := by
      simp only [highSurrogate]
      omega
    have hlow : 0xD800 ≤ lowSurrogate p.val ∧ lowSurrogate p.val ≤ 0xDFFF := by
      simp only [lowSurrogate]
      omega
    have hdelim : isDelimiter p.val = false := by
      rw [Bool.eq_false_iff, Ne, isDelimiter_iff]
      omega
    have hnamed : namedEscape? p.val = none := by
      rw [Option.eq_none_iff_forall_ne_some]
      intro c hc
      have := eq_of_namedEscape? hc
      omega
    have hprint : ¬ (32 ≤ p.val ∧ p.val ≤ 126) := by omega
    rw [CodePoint.units, if_neg hsmall, List.flatMap_cons, List.flatMap_singleton,
      escapeUnit_surrogate hhigh.1 hhigh.2, escapeUnit_surrogate hlow.1 hlow.2]
    simp only [escapeCodePoint, hdelim, hnamed, hprint, hsmall, if_false, Bool.false_eq_true]

/-- A text is escaped code unit by code unit. -/
theorem escape_eq_flatMap (text : CodePoints) : escape text = (utf16 text).flatMap escapeUnit := by
  induction text with
  | nil => rfl
  | cons p text ih =>
    rw [escape_cons, utf16_cons, List.flatMap_append, ih, escapeCodePoint_eq_flatMap]

/-- The code units of a text can be read back from the literal that it is escaped in. -/
theorem utf16_eq_of_escape_eq {a b : CodePoints} (h : escape a = escape b) : utf16 a = utf16 b := by
  obtain ⟨literal, hread, hscan⟩ := translate_literal a List.not_mem_nil
  obtain ⟨literal', hread', hscan'⟩ := translate_literal b List.not_mem_nil
  -- the same literal is read for both, and it has one value
  rw [h, hread'] at hread
  obtain rfl := Option.some.inj hread
  rw [hscan'] at hscan
  exact (congrArg Prod.fst (Option.some.inj hscan)).symm

/-! ## Texts without surrogates -/

/-- A code point that is half of another one. -/
def CodePoint.IsSurrogate (p : CodePoint) : Prop := 0xD800 ≤ p.val ∧ p.val ≤ 0xDFFF

/-- Different numbers are different code units. -/
private theorem ofNat_unit_inj {m n : Nat} (hm : m < 0x10000) (hn : n < 0x10000)
    (h : UInt16.ofNat m = UInt16.ofNat n) : m = n := by
  apply Decidable.of_not_not
  intro hne
  exact ofNat_ne hm hn hne h

/-- The first code point of a text without surrogates can be told from the code units. -/
private theorem units_append_inj {p q : CodePoint} (hp : ¬ p.IsSurrogate) (hq : ¬ q.IsSurrogate)
    {s t : List CodeUnit} (h : p.units ++ s = q.units ++ t) : p = q ∧ s = t := by
  have hpLt := p.isLt
  have hqLt := q.isLt
  simp only [CodePoint.IsSurrogate] at hp hq
  by_cases hps : p.val ≤ 0xFFFF <;> by_cases hqs : q.val ≤ 0xFFFF
  · simp only [CodePoint.units, hps, hqs, if_true, List.singleton_append, List.cons.injEq] at h
    exact ⟨CodePoint.eq_of_val (ofNat_unit_inj (by omega) (by omega) h.1), h.2⟩
  · -- the first unit of the other one would be a surrogate that stands alone
    simp only [CodePoint.units, hps, hqs, if_true, if_false, List.cons_append, List.nil_append,
      List.cons.injEq] at h
    have := ofNat_unit_inj (by omega) (highSurrogate_lt q) h.1
    simp only [highSurrogate] at this
    omega
  · simp only [CodePoint.units, hps, hqs, if_true, if_false, List.cons_append, List.nil_append,
      List.cons.injEq] at h
    have := ofNat_unit_inj (highSurrogate_lt p) (by omega) h.1
    simp only [highSurrogate] at this
    omega
  · simp only [CodePoint.units, hps, hqs, if_false, List.cons_append, List.nil_append,
      List.cons.injEq] at h
    -- the two surrogates of one tell its number
    have hhigh := ofNat_unit_inj (highSurrogate_lt p) (highSurrogate_lt q) h.1
    have hlow := ofNat_unit_inj (lowSurrogate_lt p.val) (lowSurrogate_lt q.val) h.2.1
    simp only [highSurrogate, lowSurrogate] at hhigh hlow
    exact ⟨CodePoint.eq_of_val (by omega), h.2.2⟩

/-- Every code point has code units. -/
private theorem CodePoint.units_ne_nil (p : CodePoint) : p.units ≠ [] := by
  unfold units
  split <;> exact List.cons_ne_nil _ _

/-- Texts without surrogates have code units of their own. -/
theorem utf16_inj {a b : CodePoints} (ha : ∀ p ∈ a, ¬ p.IsSurrogate)
    (hb : ∀ p ∈ b, ¬ p.IsSurrogate) (h : utf16 a = utf16 b) : a = b := by
  -- on the first text; its first code point takes the same units from both
  induction a generalizing b with
  | nil =>
    cases b with
    | nil => rfl
    | cons q b => exact absurd (List.append_eq_nil_iff.1 h.symm).1 q.units_ne_nil
  | cons p a ih =>
    cases b with
    | nil => exact absurd (List.append_eq_nil_iff.1 h).1 p.units_ne_nil
    | cons q b =>
      obtain ⟨hp, ha'⟩ := List.forall_mem_cons.1 ha
      obtain ⟨hq, hb'⟩ := List.forall_mem_cons.1 hb
      rw [utf16_cons, utf16_cons] at h
      obtain ⟨rfl, hrest⟩ := units_append_inj hp hq h
      rw [ih ha' hb' hrest]

/-- No character is a surrogate. -/
private theorem not_isSurrogate_ofChar (c : Char) : ¬ (CodePoint.ofChar c).IsSurrogate := by
  have hvalid := c.valid
  simp only [UInt32.isValidChar, Nat.isValidChar] at hvalid
  show ¬ (0xD800 ≤ c.val.toNat ∧ c.val.toNat ≤ 0xDFFF)
  omega

/-- A character is known by its code point. -/
private theorem ofChar_injective {c d : Char} (h : CodePoint.ofChar c = .ofChar d) : c = d := by
  have hval : c.toNat = d.toNat := congrArg CodePoint.val h
  exact Char.toNat_inj.1 hval

/-! ## Printable characters -/

/-- A printable character of ASCII. -/
def IsPrintable (c : Char) : Prop := 0x20 ≤ c.toNat ∧ c.toNat ≤ 0x7E

/-- The numbers of printable characters. -/
private theorem printable_ofNat {n : Nat} (h : 0x20 ≤ n ∧ n ≤ 0x7E) :
    IsPrintable (Char.ofNat n) := by
  have hn : (Char.ofNat n).toNat = n := by
    rw [Char.ofNat, dif_pos (Or.inl (by omega))]
    rfl
  rwa [IsPrintable, hn]

/-- Hexadecimal text has no characters but the digits. -/
private theorem mem_fixedHex {digit : Nat → Char} {width n : Nat} {c : Char}
    (h : c ∈ fixedHex digit width n) : ∃ d < 16, c = digit d := by
  induction width generalizing n with
  | zero => exact absurd h List.not_mem_nil
  | succ width ih =>
    rcases List.mem_append.1 h with h | h
    · exact ih h
    · exact ⟨n % 16, Nat.mod_lt _ (by decide), List.mem_singleton.1 h⟩

/-- A Unicode escape is printable. -/
private theorem mem_unicodeEscape_printable {n : Nat} {c : Char} (h : c ∈ unicodeEscape n) :
    IsPrintable c := by
  have hdigit : ∀ d < 16, 0x20 ≤ (upperHexDigit d).toNat ∧ (upperHexDigit d).toNat ≤ 0x7E := by
    decide
  rw [unicodeEscape, List.mem_cons, List.mem_cons] at h
  rcases h with rfl | rfl | h
  · exact ⟨by decide, by decide⟩
  · exact ⟨by decide, by decide⟩
  · obtain ⟨d, hd, rfl⟩ := mem_fixedHex h
    exact hdigit d hd

/-- What stands for a code point is printable. -/
private theorem mem_escapeCodePoint_printable {p : CodePoint} {c : Char}
    (h : c ∈ escapeCodePoint p) :
    IsPrintable c := by
  have hbackslash : IsPrintable '\\' := ⟨by decide, by decide⟩
  unfold escapeCodePoint at h
  -- a delimiter, a named control character, a printable character, or others
  split at h
  · rename_i hdelim
    have hval := (isDelimiter_iff p.val).1 hdelim
    rcases List.mem_cons.1 h with rfl | h
    · exact hbackslash
    · exact List.mem_singleton.1 h ▸ printable_ofNat (by omega)
  · split at h
    · rename_i d hnamed
      rcases List.mem_cons.1 h with rfl | h
      · exact hbackslash
      · obtain rfl := List.mem_singleton.1 h
        rcases eq_of_namedEscape? hnamed with ⟨-, rfl⟩ | ⟨-, rfl⟩ | ⟨-, rfl⟩ | ⟨-, rfl⟩ | ⟨-, rfl⟩ <;>
          exact ⟨by decide, by decide⟩
    · split at h
      · rename_i hprint
        exact List.mem_singleton.1 h ▸ printable_ofNat hprint
      · split at h
        · exact mem_unicodeEscape_printable h
        · rcases List.mem_append.1 h with h | h <;> exact mem_unicodeEscape_printable h

/-- What is escaped is printable. -/
theorem mem_escape_printable {text : CodePoints} {c : Char} (h : c ∈ escape text) :
    IsPrintable c := by
  obtain ⟨p, -, hc⟩ := List.mem_flatMap.1 h
  exact mem_escapeCodePoint_printable hc

/-! ## What is told apart -/

/-- Texts are escaped alike exactly if they have the same code units, so no two texts without
    surrogates are escaped alike, and no two strings.  Only printable characters of ASCII stand
    for a text. -/
theorem escape_unitwise :
    (∀ a b, escape a = escape b ↔ utf16 a = utf16 b) ∧
      Set.InjOn escape {text | ∀ p ∈ text, ¬ p.IsSurrogate} ∧
      Function.Injective escapeString ∧
      ∀ text, ∀ c ∈ escape text, IsPrintable c := by
  have hinj : Set.InjOn escape {text | ∀ p ∈ text, ¬ p.IsSurrogate} :=
    fun a ha b hb h => utf16_inj ha hb (utf16_eq_of_escape_eq h)
  -- equal code units are escaped alike, as they are escaped one by one
  refine ⟨fun a b => ⟨utf16_eq_of_escape_eq, fun h => ?_⟩, hinj, fun s t h => ?_,
    fun text c => mem_escape_printable⟩
  · rw [escape_eq_flatMap, h, ← escape_eq_flatMap]
  · -- a string has no surrogates
    have hscalar (s : String) : ∀ p ∈ codePoints s, ¬ p.IsSurrogate := by
      intro p hp
      obtain ⟨c, -, rfl⟩ := List.mem_map.1 hp
      exact not_isSurrogate_ofChar c
    have hpoints : codePoints s = codePoints t :=
      hinj (hscalar s) (hscalar t) (String.ofList_injective h)
    have hchars : s.toList = t.toList :=
      List.map_inj_right (fun _ _ => ofChar_injective) |>.1 hpoints
    exact String.toList_inj.1 hchars

/-- Two surrogates are escaped as the code point that they are the halves of. -/
example : escape [⟨0xD83D, by decide⟩, ⟨0xDE00, by decide⟩] = escape [⟨0x1F600, by decide⟩] := by
  decide

end JavaFragments.Text
