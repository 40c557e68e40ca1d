import JavaFragments.Number.Binary64

/-! # Shortest decimal digits

`shortest m` is the decimal with the fewest digits that is read back as `m`, and of those
with equally few digits the nearest to `m`.  On the grid of the multiples of a power of
ten only the two neighbours of `m` need to be tried: if any point of the grid is read
back as `m`, so is one of them.  The grids are tried from the coarsest on. -/

namespace JavaFragments.Number

-- a power is the one of the core library, whatever other powers are known
attribute [local instance (2000)] instPowNat

/-- The number `digits · 10 ^ exponent`. -/
structure Decimal where
  digits : Nat
  exponent : Int
deriving DecidableEq, Repr

namespace Decimal

/-- The same number without zeros at the end of its digits, if there are at most `fuel`. -/
def trim : (fuel : Nat) → Decimal → Decimal
  | 0, d => d
  | fuel + 1, d =>
    if d.digits % 10 = 0 ∧ d.digits ≠ 0 then trim fuel ⟨d.digits / 10, d.exponent + 1⟩ else d

end Decimal

namespace Magnitude

/-- Exponent of the power of ten that the first digit of `num / den` counts. -/
def leadingExponent (num den : Nat) : Int :=
  if den ≤ num then (Nat.toDigits 10 (num / den)).length - 1
  else
    match (List.range 330).find? fun k => den ≤ num * 10 ^ k with
    | some k => -(k : Int)
    | none => -330

/-- The neighbour of `m` among the multiples of `10 ^ exponent` that is read back as `m`;
    of two the nearer, and the even one if both are equally near. -/
def onGrid? (m : Magnitude) (exponent : Int) : Option Decimal :=
  let num := if 0 ≤ exponent then m.units else m.units * 10 ^ (-exponent).toNat
  let den := if 0 ≤ exponent then unitsPerOne * 10 ^ exponent.toNat else unitsPerOne
  let below := num / den
  let hits := [below, below + 1].filter fun d => ofDecimal d exponent = m
  let nearest := divNearest num den
  if nearest ∈ hits then some ⟨nearest, exponent⟩
  else hits.head?.map (⟨·, exponent⟩)

/-- The shortest decimal that is read back as `m`. -/
def shortest (m : Magnitude) : Decimal :=
  if m.index = 0 then ⟨0, 0⟩
  else
    -- seventeen digits tell any two magnitudes apart
    let lead := leadingExponent m.units unitsPerOne
    let found := (List.range 17).findSome? fun (i : Nat) => m.onGrid? (lead - (i : Int))
    (found.getD ⟨divNearest (m.units * 10 ^ (1074 : Nat)) unitsPerOne, -1074⟩).trim 1100

end Magnitude

end JavaFragments.Number
