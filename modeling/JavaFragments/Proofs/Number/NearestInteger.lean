import JavaFragments.Proofs.Number.IntegerRange

/-! # The number nearest to an integer

Where an integer has a number of the format, that number is the nearest of all finite ones, and of
two that are equally near it is the even one.  The numbers from a power of two on have the spacing
of the quotient that is rounded, and those below it are farther away than the power itself:

* `divNearest_nearest`, `divNearest_tie`  the nearest whole number to a quotient
* `Magnitude.units_of_index`, `Magnitude.units_cases`   the spacing of magnitudes
* `Magnitude.ofRatio_nearest`             the magnitude nearest to a whole number
* `Binary64.isNearest_of_ofInt?`          the number nearest to an integer -/

namespace JavaFragments.Number

/-- How far two integers are apart. -/
def distance (a b : Int) : Nat := (a - b).natAbs

/-- A multiple is one of the two next to a quotient, or farther away than one of them. -/
theorem multiple_cases (q k den : Nat) :
    k * den + den ≤ q * den ∨ k = q ∨ k = q + 1 ∨ q * den + den + den ≤ k * den := by
  rcases Nat.lt_trichotomy k q with hlt | heq | hlt
  · exact .inl (Nat.succ_mul k den ▸ Nat.mul_le_mul_right den hlt)
  · exact .inr (.inl heq)
  · rcases Nat.eq_or_lt_of_le hlt with heq | hfar
    · exact .inr (.inr (.inl heq.symm))
    · refine .inr (.inr (.inr ?_))
      rw [← Nat.succ_mul, ← Nat.succ_mul]
      exact Nat.mul_le_mul_right den hfar

/-- A quotient is rounded down, or up to the next whole number. -/
theorem divNearest_cases (num den : Nat) :
    (divNearest num den = num / den ∧
        (2 * (num % den) < den ∨ 2 * (num % den) = den ∧ num / den % 2 = 0)) ∨
      (divNearest num den = num / den + 1 ∧
        (den < 2 * (num % den) ∨ 2 * (num % den) = den ∧ num / den % 2 = 1)) := by
  unfold divNearest
  simp only []
  split
  · exact .inl ⟨rfl, ‹_›⟩
  · exact .inr ⟨rfl, by omega⟩

/-- The multiple of the divisor that a quotient is rounded to is the nearest one to the
    dividend. -/
theorem divNearest_nearest (num k : Nat) {den : Nat} (hden : 0 < den) :
    distance (divNearest num den * den : Nat) num ≤ distance (k * den : Nat) num := by
  have hd := Nat.div_add_mod' num den
  have hr := Nat.mod_lt num hden
  have hnext : (num / den + 1) * den = num / den * den + den := Nat.succ_mul _ _
  unfold distance
  -- rounded down or up, against a multiple on either side
  rcases divNearest_cases num den with ⟨hround, hhalf⟩ | ⟨hround, hhalf⟩ <;> rw [hround] <;>
    rcases multiple_cases (num / den) k den with hbelow | rfl | rfl | habove <;> omega

/-- If another multiple is equally near, the one that a quotient is rounded to is even. -/
theorem divNearest_tie (num k : Nat) {den : Nat} (hden : 0 < den) (hk : k ≠ divNearest num den)
    (heq : distance (k * den : Nat) num = distance (divNearest num den * den : Nat) num) :
    divNearest num den % 2 = 0 := by
  have hd := Nat.div_add_mod' num den
  have hr := Nat.mod_lt num hden
  have hnext : (num / den + 1) * den = num / den * den + den := Nat.succ_mul _ _
  unfold distance at heq
  -- rounded down or up, against a multiple on either side
  rcases divNearest_cases num den with ⟨hround, hhalf⟩ | ⟨hround, hhalf⟩ <;>
    rw [hround] at hk heq ⊢ <;>
    rcases multiple_cases (num / den) k den with hbelow | rfl | rfl | habove <;> omega

namespace Magnitude

/-- The units of a magnitude with 53 bits or one more power of two. -/
theorem units_of_index {m : Magnitude} {e b : Nat} (h : m.index = e * 2 ^ 52 + b)
    (hlow : 2 ^ 52 ≤ b) (hhigh : b ≤ 2 ^ 53) : m.units = b * 2 ^ e := by
  have hlarge : ¬ m.index < 2 ^ 52 := by omega
  rw [units, if_neg hlarge]
  -- a power of two starts the next spacing
  rcases Nat.eq_or_lt_of_le hhigh with rfl | hlt
  · have hdiv : m.index / 2 ^ 52 = e + 2 := by omega
    have hmod : m.index % 2 ^ 52 = 0 := by omega
    rw [hdiv, hmod, Nat.add_zero, ← Nat.pow_add, ← Nat.pow_add]
    congr 1
    omega
  · have hdiv : m.index / 2 ^ 52 = e + 1 := by omega
    have hmod : 2 ^ 52 + m.index % 2 ^ 52 = b := by omega
    rw [hdiv, hmod, Nat.add_sub_cancel]

/-- A magnitude is a multiple of a power of two, or lies below those that are spaced by it. -/
theorem units_cases (m : Magnitude) (e : Nat) :
    (∃ k, m.units = k * 2 ^ e) ∨ m.units < 2 ^ 52 * 2 ^ e := by
  unfold units
  split
  · rename_i hsmall
    exact .inr (Nat.lt_of_lt_of_le hsmall (Nat.le_mul_of_pos_right _ (Nat.two_pow_pos e)))
  · have hbits : 2 ^ 52 + m.index % 2 ^ 52 < 2 ^ 53 := by omega
    generalize 2 ^ 52 + m.index % 2 ^ 52 = b at hbits
    generalize m.index / 2 ^ 52 - 1 = j
    -- a finer spacing lies below, a coarser one has only multiples
    rcases Nat.lt_or_ge j e with hlt | hle
    · right
      calc b * 2 ^ j < 2 ^ 53 * 2 ^ j := Nat.mul_lt_mul_of_pos_right hbits (Nat.two_pow_pos j)
        _ = 2 ^ 52 * 2 ^ (j + 1) := by rw [← Nat.pow_add, ← Nat.pow_add]; congr 1; omega
        _ ≤ 2 ^ 52 * 2 ^ e := Nat.mul_le_mul_left _ (Nat.pow_le_pow_right (by decide) hlt)
    · left
      exact ⟨b * 2 ^ (j - e), by rw [Nat.mul_assoc, ← Nat.pow_add, Nat.sub_add_cancel hle]⟩

/-- There are units in one. -/
private theorem unitsPerOne_pos : 0 < unitsPerOne := by decide +kernel

/-- The units of a power of two have 53 digits of the spacing there. -/
private theorem two_pow_mul_unitsPerOne (n : Nat) :
    2 ^ n * unitsPerOne = 2 ^ 52 * 2 ^ (n + 1022) := by
  obtain ⟨k, hk⟩ : ∃ k, 1074 = 52 + k := ⟨1022, rfl⟩
  rw [unitsPerOne_eq hk, show n + 1022 = n + k by omega, Nat.pow_add, Nat.mul_left_comm]

/-- The units of a whole number lie between those of two powers of two. -/
private theorem mul_unitsPerOne_mem {n : Nat} (hn : n ≠ 0) :
    2 ^ 52 * 2 ^ (n.log2 + 1022) ≤ n * unitsPerOne ∧
      n * unitsPerOne < 2 * (2 ^ 52 * 2 ^ (n.log2 + 1022)) := by
  obtain ⟨hle, hlt⟩ := (Nat.log2_eq_iff hn).1 rfl
  rw [← two_pow_mul_unitsPerOne, ← Nat.mul_assoc, Nat.mul_comm 2, ← Nat.pow_succ]
  exact ⟨Nat.mul_le_mul_right _ hle, Nat.mul_lt_mul_of_pos_right hlt unitsPerOne_pos⟩

/-- Rounding to 53 digits carries at most into the next power of two. -/
private theorem leadingBits_le {n : Nat} (hn : n ≠ 0) : leadingBits n ≤ 2 ^ 53 := by
  have hround : 2 * (leadingBits n * 2 ^ (n.log2 + 1022)) ≤
      2 * (n * unitsPerOne) + 2 ^ (n.log2 + 1022) := divNearest_le (Nat.two_pow_pos _)
  have hnum := (mul_unitsPerOne_mem hn).2
  have hmem := (leadingBits_mem hn).2
  generalize 2 ^ (n.log2 + 1022) = den at *
  generalize n * unitsPerOne = num at *
  -- one more would be half a unit above the quotient at least
  apply Nat.le_of_not_lt
  intro h
  have heq : leadingBits n = 2 ^ 53 + 1 := by omega
  rw [heq] at hround
  omega

/-- The magnitude of a whole number that is not too large is the nearest one to it, and of two that
    are equally near the even one. -/
theorem ofRatio_nearest {n : Nat} (hn : n < overflow) (m : Magnitude) :
    distance (ofRatio n 1).units (n * unitsPerOne : Nat) ≤
        distance m.units (n * unitsPerOne : Nat) ∧
      (m.units ≠ (ofRatio n 1).units →
        distance m.units (n * unitsPerOne : Nat) =
          distance (ofRatio n 1).units (n * unitsPerOne : Nat) →
        (ofRatio n 1).index % 2 = 0) := by
  by_cases hzero : n = 0
  · subst hzero
    have hunits : (ofRatio 0 1).units = 0 := by decide +kernel
    rw [hunits, Nat.zero_mul]
    unfold distance
    omega
  -- the exponent and the digits of the number
  obtain ⟨e, he⟩ : ∃ e, n.log2 + 1022 = e := ⟨_, rfl⟩
  obtain ⟨b, hb⟩ : ∃ b, leadingBits n = b := ⟨_, rfl⟩
  have hindex : (ofRatio n 1).index = e * 2 ^ 52 + b := by
    have hfinite := of_decide_eq_true ((isFinite_ofRatio_iff n).2 hn)
    rw [index_ofRatio_one hzero, he, hb] at hfinite ⊢
    omega
  have hmem := leadingBits_mem hzero
  have hmax := leadingBits_le hzero
  rw [hb] at hmem hmax
  have hunits : (ofRatio n 1).units = b * 2 ^ e := units_of_index hindex hmem.1 hmax
  have hround : divNearest (n * unitsPerOne) (2 ^ e) = b := by rw [← hb, ← he, leadingBits]
  have hparity : (ofRatio n 1).index % 2 = b % 2 := by omega
  have hleading : 2 ^ 52 * 2 ^ e ≤ n * unitsPerOne := he ▸ (mul_unitsPerOne_mem hzero).1
  rw [hunits, hparity]
  rcases units_cases m e with ⟨k, hk⟩ | hbelow
  · have hnear := divNearest_nearest (n * unitsPerOne) k (Nat.two_pow_pos e)
    have htie := divNearest_tie (n * unitsPerOne) k (Nat.two_pow_pos e)
    rw [hround] at hnear htie
    rw [hk]
    exact ⟨hnear, fun hne heq => htie (fun hkb => hne (hkb ▸ rfl)) heq⟩
  · -- the leading power of two lies between such a magnitude and the number
    have hnear := divNearest_nearest (n * unitsPerOne) (2 ^ 52) (Nat.two_pow_pos e)
    rw [hround] at hnear
    unfold distance at hnear ⊢
    generalize n * unitsPerOne = num at *
    generalize 2 ^ 52 * 2 ^ e = leading at *
    generalize b * 2 ^ e = rounded at *
    omega

end Magnitude

namespace Binary64

/-- Whether the last bit of a number is zero. -/
def isEven : Binary64 → Bool
  | nan _ => false
  | signed _ m => m.index % 2 = 0

/-- A finite number that no other one is nearer to an integer than, and that is even if another one
    is as near. -/
def IsNearest (x : Binary64) (n : Int) : Prop :=
  ∃ u, x.units? = some u ∧ ∀ (y : Binary64) v, y.units? = some v →
    distance u (n * Magnitude.unitsPerOne) ≤ distance v (n * Magnitude.unitsPerOne) ∧
      (v ≠ u → distance v (n * Magnitude.unitsPerOne) = distance u (n * Magnitude.unitsPerOne) →
        x.isEven)

/-- The units of a finite number are those of its magnitude, with its sign. -/
private theorem exists_of_units? {x : Binary64} {u : Int} (h : x.units? = some u) :
    ∃ negative m, x = signed negative m ∧ u = if negative then -(m.units : Int) else m.units := by
  cases x with
  | nan payload => cases h
  | signed negative m =>
    refine ⟨negative, m, rfl, ?_⟩
    simp only [units?] at h
    by_cases hm : m.isFinite = true
    · rw [if_pos hm] at h
      exact (Option.some.inj h).symm
    · rw [if_neg hm] at h
      cases h

/-- The number of an integer is the nearest one. -/
theorem isNearest_of_ofInt? {n : Int} {x : Binary64} (h : ofInt? n = some x) : x.IsNearest n := by
  have hsmall : n.natAbs < Magnitude.overflow := (exists_ofInt?_iff n).1 ⟨x, h⟩
  have hfinite := (Magnitude.isFinite_ofRatio_iff n.natAbs).2 hsmall
  have hzero : Magnitude.zero.units = 0 := rfl
  have hnumber : (n.natAbs * Magnitude.unitsPerOne : Nat) =
      (n * Magnitude.unitsPerOne : Int).natAbs := by
    rw [Int.natAbs_mul, Int.natAbs_natCast]
  have hsign : n < 0 ↔ n * Magnitude.unitsPerOne < 0 := by
    have hpos : (0 : Int) < Magnitude.unitsPerOne := Int.natCast_pos.2 Magnitude.unitsPerOne_pos
    constructor
    · exact fun hn => Int.mul_neg_of_neg_of_pos hn hpos
    · intro hn
      apply Int.lt_of_not_ge
      exact fun hge => Int.not_le.2 hn (Int.mul_nonneg hge (Int.le_of_lt hpos))
  unfold ofInt? at h
  simp only [hfinite, if_true] at h
  obtain rfl := Option.some.inj h
  refine ⟨_, by rw [units?, if_pos hfinite], fun y v hv => ?_⟩
  obtain ⟨negative, m, rfl, rfl⟩ := exists_of_units? hv
  -- the magnitude is the nearest one, also when compared with zero
  obtain ⟨hnear, htie⟩ := Magnitude.ofRatio_nearest hsmall m
  obtain ⟨hnearZero, htieZero⟩ := Magnitude.ofRatio_nearest hsmall .zero
  rw [hnumber] at hnear htie hnearZero htieZero
  simp only [isEven, decide_eq_true_eq]
  rw [hzero] at hnearZero htieZero
  generalize (n * Magnitude.unitsPerOne : Int) = number at *
  generalize (Magnitude.ofRatio n.natAbs 1).units = u at *
  generalize (Magnitude.ofRatio n.natAbs 1).index = index at *
  -- a number of the other sign is no nearer than zero is
  unfold distance at *
  by_cases hn : n < 0
  · have := hsign.1 hn
    cases negative <;> simp only [hn, if_true, Bool.false_eq_true, if_false] <;> omega
  · have := fun h => hn (hsign.2 h)
    cases negative <;> simp only [hn, if_true, Bool.false_eq_true, if_false] <;> omega

end Binary64

end JavaFragments.Number
