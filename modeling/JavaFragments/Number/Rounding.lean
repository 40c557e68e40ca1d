/-! # Rounding a quotient

`divNearest num den` is the whole number nearest to `num / den`; a quotient half way
between two whole numbers goes to the even one. -/

namespace JavaFragments.Number

/-- The whole number nearest to `num / den`, ties to even. -/
def divNearest (num den : Nat) : Nat :=
  let q := num / den
  let r := num % den
  if 2 * r < den ∨ (2 * r = den ∧ q % 2 = 0) then q else q + 1

/-- A whole quotient is kept. -/
theorem divNearest_mul_right {den : Nat} (h : 0 < den) (n : Nat) :
    divNearest (n * den) den = n := by
  simp [divNearest, Nat.mul_div_cancel n h, h]

/-- The result is at most half a unit below the quotient. -/
theorem le_divNearest {num den : Nat} (h : 0 < den) :
    2 * num ≤ (2 * divNearest num den + 1) * den := by
  have hd := Nat.div_add_mod num den
  have hr := Nat.mod_lt num h
  unfold divNearest
  simp only []
  split
  · rename_i hc
    have : (2 * (num / den) + 1) * den = 2 * (den * (num / den)) + den := by
      rw [Nat.add_mul, Nat.mul_assoc, Nat.mul_comm (num / den)]; simp
    omega
  · have : (2 * (num / den + 1) + 1) * den = 2 * (den * (num / den)) + 3 * den := by
      rw [Nat.mul_comm den (num / den), ← Nat.mul_assoc, ← Nat.add_mul]; congr 1
    omega

/-- The result is at most half a unit above the quotient. -/
theorem divNearest_le {num den : Nat} (h : 0 < den) :
    2 * (divNearest num den * den) ≤ 2 * num + den := by
  have hd := Nat.div_add_mod num den
  have hr := Nat.mod_lt num h
  unfold divNearest
  simp only []
  split
  · rename_i hc
    rw [Nat.mul_comm (num / den)]
    omega
  · rename_i hc
    rw [Nat.add_mul, Nat.mul_comm (num / den)]
    omega

end JavaFragments.Number
