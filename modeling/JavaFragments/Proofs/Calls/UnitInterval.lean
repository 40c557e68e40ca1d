import JavaFragments.Random.Source
import Mathlib.Algebra.Group.Nat.Defs

/-! # Numbers from zero to one

A source answers with a whole number of 53 bits, divided by 2⁵³.  Such a quotient is one of
the numbers of the format, so that it is not rounded up to one:

* `Generator.below53_lt`        the whole number is below 2⁵³, whatever the generator
* `Magnitude.index_ofRatio_lt`  the quotient lies below one
* `Source.random_mem`           a source answers with numbers from zero on and below one -/

namespace JavaFragments

namespace Number

/-- A number with more bits behind it has as many bits more. -/
theorem log2_mul_two_pow {n : Nat} (h : n ≠ 0) (k : Nat) : (n * 2 ^ k).log2 = n.log2 + k := by
  obtain ⟨hle, hlt⟩ := (Nat.log2_eq_iff h).1 rfl
  have hpos := Nat.two_pow_pos k
  refine (Nat.log2_eq_iff (Nat.mul_ne_zero h (Nat.ne_of_gt hpos))).2 ⟨?_, ?_⟩
  · rw [Nat.pow_add]
    exact Nat.mul_le_mul_right _ hle
  · rw [Nat.add_right_comm, Nat.pow_add]
    exact Nat.mul_lt_mul_of_pos_right hlt hpos

/-- A number that is not zero has at least as many bits as stand behind it. -/
theorem two_pow_le_mul_two_pow {n : Nat} (h : n ≠ 0) {j k : Nat} (hjk : j ≤ k) :
    2 ^ j ≤ n * 2 ^ k :=
  Nat.le_trans (Nat.pow_le_pow_right (by decide) hjk)
    (Nat.le_mul_of_pos_left _ (Nat.pos_of_ne_zero h))

namespace Magnitude

/-- Position of one in the order of the magnitudes. -/
private theorem index_one : (ofRatio 1 1).index = 1023 * 2 ^ 52 := by decide +kernel

/-- The units of one, split into two powers. -/
theorem unitsPerOne_eq {m n : Nat} (h : 1074 = m + n) : unitsPerOne = 2 ^ m * 2 ^ n := by
  rw [unitsPerOne, h, Nat.pow_add]

/-- Units are divided by a power of two without a rest, as long as there are some left. -/
private theorem mul_unitsPerOne_div (r : Nat) {m n : Nat} (h : 1074 = m + n) :
    r * unitsPerOne / 2 ^ n = r * 2 ^ m := by
  rw [unitsPerOne_eq h, ← Nat.mul_assoc, Nat.mul_div_cancel _ (Nat.two_pow_pos n)]

/-- A whole number of 53 bits keeps all of them when it is divided by 2⁵³. -/
private theorem index_ofRatio {r : Nat} (hpos : r ≠ 0) (h : r < 2 ^ 53) :
    (ofRatio r (2 ^ 53)).index =
      min ((r.log2 + 969) * 2 ^ 52 + r * 2 ^ (52 - r.log2)) infinityIndex := by
  have hlog : r.log2 < 53 := (Nat.log2_lt hpos).2 h
  obtain ⟨k, hk⟩ : ∃ k, 1074 = k + 53 := ⟨1021, rfl⟩
  have hwhole := mul_unitsPerOne_div r hk
  have hlarge := two_pow_le_mul_two_pow hpos (show 53 ≤ k by omega)
  have hshift : (r * 2 ^ k).log2 - 52 = r.log2 + 969 := by
    rw [log2_mul_two_pow hpos]
    omega
  -- the bits that are shifted out are all zero
  have hnearest : divNearest (r * unitsPerOne) (2 ^ 53 * 2 ^ (r.log2 + 969)) =
      r * 2 ^ (52 - r.log2) := by
    have hunits : unitsPerOne = 2 ^ (52 - r.log2) * (2 ^ 53 * 2 ^ (r.log2 + 969)) := by
      rw [← Nat.pow_add 2 53]
      exact unitsPerOne_eq (by omega)
    rw [hunits, ← Nat.mul_assoc]
    exact divNearest_mul_right (Nat.mul_pos (Nat.two_pow_pos _) (Nat.two_pow_pos _)) _
  unfold ofRatio
  simp only [hwhole, if_neg (Nat.not_lt.2 hlarge), hshift, hnearest, ofIndex]

/-- A whole number of 53 bits that is divided by 2⁵³ stays below one. -/
theorem index_ofRatio_lt {r : Nat} (h : r < 2 ^ 53) :
    (ofRatio r (2 ^ 53)).index < (ofRatio 1 1).index := by
  by_cases hpos : r = 0
  · subst hpos
    decide +kernel
  have hlog : r.log2 < 53 := (Nat.log2_lt hpos).2 h
  -- shifted up, the number has 53 bits at most
  have hbits : r * 2 ^ (52 - r.log2) < 2 ^ 53 := by
    have hlt : r * 2 ^ (52 - r.log2) < 2 ^ (r.log2 + 1) * 2 ^ (52 - r.log2) :=
      Nat.mul_lt_mul_of_pos_right Nat.lt_log2_self (Nat.two_pow_pos _)
    rwa [← Nat.pow_add, show r.log2 + 1 + (52 - r.log2) = 53 by omega] at hlt
  rw [index_ofRatio hpos h, index_one]
  omega

end Magnitude

namespace Binary64

/-- One number is less than another if both are numbers and its rank is less. -/
theorem lt_iff {x y : Binary64} :
    x.lt y ↔ ∃ a b, x.rank? = some a ∧ y.rank? = some b ∧ a < b := by
  unfold lt
  cases x.rank? <;> cases y.rank? <;> simp

/-- So for one that is not larger. -/
theorem le_iff {x y : Binary64} :
    x.le y ↔ ∃ a b, x.rank? = some a ∧ y.rank? = some b ∧ a ≤ b := by
  unfold le
  cases x.rank? <;> cases y.rank? <;> simp

/-- What is less than a number is less than a larger one. -/
theorem lt_of_lt_of_le {x y z : Binary64} (hxy : x.lt y) (hyz : y.le z) : x.lt z := by
  obtain ⟨a, b, ha, hb, hab⟩ := lt_iff.1 hxy
  obtain ⟨b', c, hb', hc, hbc⟩ := le_iff.1 hyz
  obtain rfl := Option.some.inj (hb.symm.trans hb')
  exact lt_iff.2 ⟨a, c, ha, hc, Int.lt_of_lt_of_le hab hbc⟩

/-- What is not larger than a number is not larger than a larger one. -/
theorem le_trans {x y z : Binary64} (hxy : x.le y) (hyz : y.le z) : x.le z := by
  obtain ⟨a, b, ha, hb, hab⟩ := le_iff.1 hxy
  obtain ⟨b', c, hb', hc, hbc⟩ := le_iff.1 hyz
  obtain rfl := Option.some.inj (hb.symm.trans hb')
  exact le_iff.2 ⟨a, c, ha, hc, Int.le_trans hab hbc⟩

/-- Nothing is less than what is not larger. -/
theorem not_lt_of_le {x y : Binary64} (h : y.le x) : x.lt y = false := by
  obtain ⟨b, a, hb, ha, hba⟩ := le_iff.1 h
  simp [lt, ha, hb, hba]

end Binary64

end Number

namespace Random

open Number

/-- Two words give numbers of 27 and of 26 bits. -/
theorem Twister.below53_lt (t : Twister) : t.below53.1 < 2 ^ 53 := by
  -- the words are cut to 27 and 26 bits
  have hshift (w : UInt32) (k : Nat) (hk : k < 32) :
      (w >>> UInt32.ofNat k).toNat = w.toNat / 2 ^ k := by
    rw [UInt32.toNat_shiftRight, Nat.shiftRight_eq_div_pow]
    congr 2
    rw [UInt32.toNat_ofNat']
    omega
  have ha := t.next.1.toNat_lt
  have hb := t.next.2.next.1.toNat_lt
  show (t.next.1 >>> UInt32.ofNat 5).toNat * 2 ^ 26 +
    (t.next.2.next.1 >>> UInt32.ofNat 6).toNat < 2 ^ 53
  rw [hshift _ 5 (by decide), hshift _ 6 (by decide)]
  omega

/-- Every generator gives whole numbers of 53 bits. -/
theorem Generator.below53_lt (g : Generator) : g.below53.1 < 2 ^ 53 := by
  cases g with
  | script numbers position => exact Nat.mod_lt _ (Nat.two_pow_pos 53)
  | twister t => exact t.below53_lt

namespace Source

/-- A number that a source may answer with. -/
def InUnitInterval (u : Binary64) : Prop := Binary64.zero.le u ∧ u.lt .one

/-- A source answers with numbers from zero on and below one. -/
theorem random_mem (s : Source) : InUnitInterval s.random.1 := by
  have hlt := Magnitude.index_ofRatio_lt s.generator.below53_lt
  -- the ranks are compared, as the quotient is not negative
  constructor
  · exact Binary64.le_iff.2 ⟨_, _, rfl, rfl, Int.natCast_nonneg _⟩
  · exact Binary64.lt_iff.2 ⟨_, _, rfl, rfl, Int.ofNat_lt.2 hlt⟩

end Source

end Random

end JavaFragments
