import JavaFragments.Proofs.Calls.UnitInterval

/-! # Integers within the range of the format

An integer has a nearest finite number as long as it is below 2¹⁰²⁴ - 2⁹⁷⁰, which lies half way
between the largest finite number and the next one that there would be:

* `le_divNearest_iff`               when a quotient is rounded to an even number at least
* `Magnitude.isFinite_ofRatio_iff`  which whole numbers do not become infinite
* `Binary64.exists_ofInt?_iff`      which integers have a nearest number -/

namespace JavaFragments.Number

/-- A quotient is rounded to an even number or above it from half a unit below it on. -/
theorem le_divNearest_iff {num den k : Nat} (hden : 0 < den) (heven : k % 2 = 0) (hk : 0 < k) :
    k ≤ divNearest num den ↔ (2 * k - 1) * den ≤ 2 * num := by
  have hd := Nat.div_add_mod num den
  have hr := Nat.mod_lt num hden
  unfold divNearest
  simp only []
  -- the whole part of the quotient is k - 1 where the rounding decides
  generalize num / den = q at hd
  generalize num % den = r at hd hr
  obtain hlt | rfl | hgt : q + 1 < k ∨ q + 1 = k ∨ k ≤ q := by omega
  · obtain ⟨j, rfl⟩ : ∃ j, k = q + 2 + j := ⟨k - (q + 2), by omega⟩
    have hexpand : (2 * (q + 2 + j) - 1) * den = 2 * (den * q) + 2 * (den * j) + den * 3 := by
      rw [show 2 * (q + 2 + j) - 1 = 2 * q + 2 * j + 3 by omega, Nat.mul_comm _ den, Nat.mul_add,
        Nat.mul_add, Nat.mul_left_comm, Nat.mul_left_comm den 2 j]
    constructor
    · intro h
      split at h <;> omega
    · intro h
      rw [hexpand] at h
      omega
  · have hexpand : (2 * (q + 1) - 1) * den = 2 * (den * q) + den := by
      rw [show 2 * (q + 1) - 1 = 2 * q + 1 by omega, Nat.mul_comm _ den, Nat.mul_add,
        Nat.mul_left_comm, Nat.mul_one]
    rw [hexpand]
    split <;> omega
  · obtain ⟨j, rfl⟩ : ∃ j, q = k + j := ⟨q - k, by omega⟩
    have hexpand : (2 * k - 1) * den + den = 2 * (den * k) := by
      rw [← Nat.succ_mul, show (2 * k - 1).succ = 2 * k by omega, Nat.mul_assoc, Nat.mul_comm k]
    rw [Nat.mul_add] at hd
    constructor
    · intro _
      omega
    · intro _
      split <;> omega

namespace Magnitude

/-- The digits of a whole number, rounded to 53 bits. -/
def leadingBits (n : Nat) : Nat := divNearest (n * unitsPerOne) (2 ^ (n.log2 + 1022))

/-- The magnitude of a whole number in terms of its binary digits. -/
theorem index_ofRatio_one {n : Nat} (hn : n ≠ 0) :
    (ofRatio n 1).index = min ((n.log2 + 1022) * 2 ^ 52 + leadingBits n) infinityIndex := by
  obtain ⟨k, hk⟩ : ∃ k, 1074 = k + 0 := ⟨1074, rfl⟩
  have hwhole : n * unitsPerOne / 1 = n * 2 ^ k := by
    rw [Nat.div_one, unitsPerOne_eq hk, Nat.pow_zero, Nat.mul_one]
  have hlarge : 2 ^ 53 ≤ n * 2 ^ k := two_pow_le_mul_two_pow hn (by omega)
  have hshift : (n * 2 ^ k).log2 - 52 = n.log2 + 1022 := by
    rw [log2_mul_two_pow hn]
    omega
  unfold ofRatio
  simp only [hwhole, if_neg (Nat.not_lt.2 hlarge), hshift, Nat.one_mul, ofIndex, leadingBits]

/-- When the digits of a whole number are rounded to an even number at least. -/
private theorem le_leadingBits_iff {n m : Nat} (heven : m % 2 = 0) (hm : 0 < m) :
    m ≤ leadingBits n ↔ (2 * m - 1) * 2 ^ n.log2 ≤ 2 ^ 53 * n := by
  obtain ⟨k, hk⟩ : ∃ k, 1074 = 52 + k := ⟨1022, rfl⟩
  have hdouble : 2 ^ 53 = 2 * 2 ^ 52 := Nat.pow_succ'
  have hscaled : 2 * (n * unitsPerOne) = 2 ^ 53 * n * 2 ^ k := by
    rw [unitsPerOne_eq hk, ← Nat.mul_assoc n, ← Nat.mul_assoc 2, Nat.mul_comm n,
      ← Nat.mul_assoc 2, hdouble]
  -- both sides have the factor that the units bring in
  rw [leadingBits, show n.log2 + 1022 = n.log2 + k by omega,
    le_divNearest_iff (Nat.two_pow_pos _) heven hm, hscaled, Nat.pow_add, ← Nat.mul_assoc]
  exact Nat.mul_le_mul_right_iff (Nat.two_pow_pos k)

/-- Rounding keeps 53 digits, but may carry into the next power of two. -/
theorem leadingBits_mem {n : Nat} (hn : n ≠ 0) :
    2 ^ 52 ≤ leadingBits n ∧ leadingBits n < 2 ^ 53 + 2 := by
  obtain ⟨hle, hlt⟩ := (Nat.log2_eq_iff hn).1 rfl
  rw [Nat.pow_succ] at hlt
  -- both bounds are even, so that rounding to them can be told
  rw [← Nat.not_le, le_leadingBits_iff (by decide) (by decide),
    le_leadingBits_iff (by decide) (by decide)]
  omega

/-- The first number that is too large: half way between the largest finite number and the next
    power of two. -/
def overflow : Nat := (2 ^ 54 - 1) * 2 ^ 970

/-- A whole number is rounded to a finite one if it is below the first one that is too large. -/
theorem isFinite_ofRatio_iff (n : Nat) : (ofRatio n 1).isFinite ↔ n < overflow := by
  by_cases hn : n = 0
  · subst hn
    decide +kernel
  obtain ⟨hle, hlt⟩ := (Nat.log2_eq_iff hn).1 rfl
  have hindex : (ofRatio n 1).isFinite ↔ (n.log2 + 1022) * 2 ^ 52 + leadingBits n < 2047 * 2 ^ 52 := by
    rw [isFinite, decide_eq_true_iff, index_ofRatio_one hn, infinityIndex]
    omega
  obtain ⟨hlow, hhigh⟩ := leadingBits_mem hn
  rw [hindex]
  -- only numbers with 1024 binary digits come near the limit
  obtain hsmall | hlast | hlarge : n.log2 < 1023 ∨ n.log2 = 1023 ∨ 1023 < n.log2 := by omega
  · have hn : n < overflow := by
      refine Nat.lt_of_lt_of_le hlt (Nat.le_trans (Nat.pow_le_pow_right (by decide) hsmall) ?_)
      decide +kernel
    simp only [hn, iff_true]
    omega
  · -- the middle between two numbers is rounded to the even one, which is the power of two
    have hround : 2 ^ 53 ≤ leadingBits n ↔ overflow ≤ n := by
      have hmiddle : (2 * 2 ^ 53 - 1) * 2 ^ 1023 = 2 ^ 53 * overflow := by decide +kernel
      rw [le_leadingBits_iff (by decide) (by decide), hlast, hmiddle]
      exact Nat.mul_le_mul_left_iff (by decide)
    omega
  · have hn : overflow ≤ n := by
      refine Nat.le_trans ?_ (Nat.le_trans (Nat.pow_le_pow_right (by decide) hlarge) hle)
      decide +kernel
    simp only [Nat.not_lt.2 hn, iff_false]
    omega

end Magnitude

/-- An integer has a nearest number if its size is below the first one that is too large. -/
theorem Binary64.exists_ofInt?_iff (n : Int) :
    (∃ x, ofInt? n = some x) ↔ n.natAbs < Magnitude.overflow := by
  rw [← Magnitude.isFinite_ofRatio_iff]
  unfold ofInt?
  cases h : (Magnitude.ofRatio n.natAbs 1).isFinite <;> simp [h]

/-- An integer of any other size has none. -/
theorem Binary64.ofInt?_eq_none_iff {n : Int} :
    ofInt? n = none ↔ Magnitude.overflow ≤ n.natAbs := by
  rw [← Nat.not_lt, ← exists_ofInt?_iff]
  cases ofInt? n <;> simp

end JavaFragments.Number
