import JavaFragments.Number.Rounding

/-! # Floating-point numbers of 64 bits

The magnitudes that binary64 can represent are numbered in increasing order from zero on;
the last number is infinity.  `Magnitude.units` decodes a number: it counts units of
2⁻¹⁰⁷⁴, of which every finite magnitude is a whole multiple.  All arithmetic is exact
arithmetic on these units followed by one rounding to nearest, ties to even. -/

namespace JavaFragments.Number

-- a power is the one of the core library, whatever other powers are known
attribute [local instance (2000)] instPowNat

/-- Position of infinity in the order of the magnitudes. -/
def infinityIndex : Nat := 2047 * 2 ^ (52 : Nat)

/-- A magnitude, given by its position in the order of all magnitudes. -/
structure Magnitude where
  index : Nat
  index_le : index ≤ infinityIndex
deriving DecidableEq

namespace Magnitude

/-- The magnitude at `index`, infinity if there is none. -/
def ofIndex (index : Nat) : Magnitude := ⟨min index infinityIndex, Nat.min_le_right _ _⟩

/-- Infinity. -/
def infinity : Magnitude := ⟨infinityIndex, Nat.le_refl _⟩

/-- Zero. -/
def zero : Magnitude := ⟨0, Nat.zero_le _⟩

/-- Whether the magnitude is a number. -/
def isFinite (m : Magnitude) : Bool := m.index < infinityIndex

/-- The magnitude in units of 2⁻¹⁰⁷⁴. -/
def units (m : Magnitude) : Nat :=
  if m.index < 2 ^ (52 : Nat) then m.index
  else (2 ^ (52 : Nat) + m.index % 2 ^ (52 : Nat)) * 2 ^ (m.index / 2 ^ (52 : Nat) - 1)

/-- How many units make one. -/
def unitsPerOne : Nat := 2 ^ (1074 : Nat)

/-- The magnitude nearest to `num / den`, ties to even. -/
def ofRatio (num den : Nat) : Magnitude :=
  -- beyond 53 bits the spacing of the magnitudes doubles with each further bit
  let whole := num * unitsPerOne / den
  let shift := if whole < 2 ^ (53 : Nat) then 0 else whole.log2 - 52
  ofIndex (shift * 2 ^ (52 : Nat) + divNearest (num * unitsPerOne) (den * 2 ^ shift))

/-- The magnitude nearest to `digits · 10 ^ exponent`, ties to even.  A value beyond the
    range of the format is recognised by its size before it is written out: a binary digit
    is worth from three tenths to a third of a decimal one. -/
def ofDecimal (digits : Nat) (exponent : Int) : Magnitude :=
  if digits = 0 ∨ digits.log2 / 3 + 1 + exponent < -400 then zero
  else if 400 < digits.log2 * 3 / 10 + exponent then infinity
  else if 0 ≤ exponent then ofRatio (digits * 10 ^ exponent.toNat) 1
  else ofRatio digits (10 ^ (-exponent).toNat)

end Magnitude

/-- A binary64 number.  What is no number has a payload, which tells apart where it came from
    and which no arithmetic looks at. -/
inductive Binary64
  | nan (payload : Nat)
  | signed (negative : Bool) (magnitude : Magnitude)
deriving DecidableEq

namespace Binary64

/-- The same number; what is no number gets another payload. -/
def withPayload (payload : Nat) : Binary64 → Binary64
  | nan _ => nan payload
  | signed negative m => signed negative m

/-- Position of a number in the order of all numbers; none for `nan`. -/
def rank? : Binary64 → Option Int
  | nan _ => none
  | signed negative m => some (if negative then -(m.index : Int) else m.index)

/-- Whether `x` is less than `y`; nothing is less or greater than `nan`. -/
def lt (x y : Binary64) : Bool :=
  match x.rank?, y.rank? with
  | some a, some b => a < b
  | _, _ => false

/-- Whether `x` is at most `y`; never for `nan`. -/
def le (x y : Binary64) : Bool :=
  match x.rank?, y.rank? with
  | some a, some b => a ≤ b
  | _, _ => false

/-- Whether `x` and `y` are equal as numbers: the zeros are equal, `nan` differs from itself. -/
def eq (x y : Binary64) : Bool := x.le y && y.le x

/-- Whether `x` and `y` are equal as numbers, or no numbers with the same payload. -/
def same (x y : Binary64) : Bool := x.eq y || x = y

/-- The order of two numbers; none if one of them is `nan`. -/
def order? (x y : Binary64) : Option Ordering :=
  match x.rank?, y.rank? with
  | some a, some b => some (compare a b)
  | _, _ => none

/-- A finite number in units of 2⁻¹⁰⁷⁴. -/
def units? : Binary64 → Option Int
  | signed negative m =>
    if m.isFinite then some (if negative then -(m.units : Int) else m.units) else none
  | nan _ => none

/-- The number nearest to `num / den`. -/
def ofRatio (num den : Nat) : Binary64 := signed false (.ofRatio num den)

/-- Positive zero. -/
def zero : Binary64 := signed false .zero

/-- One. -/
def one : Binary64 := ofRatio 1 1

/-- The number nearest to an integer, ties to even; none if it is too large for the format. -/
def ofInt? (n : Int) : Option Binary64 :=
  let m := Magnitude.ofRatio n.natAbs 1
  if m.isFinite then some (signed (n < 0) m) else none

/-- The number nearest to `n` units of 2⁻¹⁰⁷⁴. -/
def ofUnits (n : Int) : Binary64 := signed (n < 0) (.ofRatio n.natAbs Magnitude.unitsPerOne)

/-- The sum, rounded to nearest, ties to even.  A sum of zero is positive unless both
    numbers are negative. -/
def add (x y : Binary64) : Binary64 :=
  match x, y with
  | signed a m, signed b _ =>
    match x.units?, y.units? with
    | some u, some v => if u + v = 0 then signed (a && b) .zero else ofUnits (u + v)
    | none, some _ => x
    | some _, none => y
    | none, none => if a = b then signed a m else nan 0
  | _, _ => nan 0

/-- The product, rounded to nearest, ties to even. -/
def mul : Binary64 → Binary64 → Binary64
  | signed a x, signed b y =>
    if x.isFinite && y.isFinite then
      signed (a != b)
        (.ofRatio (x.units * y.units) (Magnitude.unitsPerOne * Magnitude.unitsPerOne))
    else if x = .zero ∨ y = .zero then nan 0
    else signed (a != b) .infinity
  | _, _ => nan 0

/-- Every number is the same as itself, also one that is no number. -/
@[simp] theorem same_self (x : Binary64) : x.same x = true := by simp [same]

end Binary64

end JavaFragments.Number
