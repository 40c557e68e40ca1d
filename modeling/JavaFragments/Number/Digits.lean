/-! # Digits

The number that a run of digits denotes.  `ofDigits` takes one digit after the other;
`ofLongDigits` puts the number together from halves, which is faster for long runs:

* `ofDigits_append`   the number of two runs in a row
* `ofLongDigits_eq`   both give the same number

`fixedHex` writes a number with so many hexadecimal digits. -/

namespace JavaFragments.Number

-- a power is the one of the core library, whatever other powers are known
attribute [local instance (2000)] instPowNat

/-- Value of a digit, with letters for the digits from ten on. -/
def digitOf (c : Char) : Nat :=
  if '0' ≤ c ∧ c ≤ '9' then c.toNat - 48
  else if 'a' ≤ c ∧ c ≤ 'z' then c.toNat - 87
  else if 'A' ≤ c ∧ c ≤ 'Z' then c.toNat - 55
  else 99

/-- The number that digits denote. -/
def ofDigits (base : Nat) (ds : List Char) : Nat := ds.foldl (fun n c => n * base + digitOf c) 0

/-- Digits behind a number are digits of a larger one. -/
private theorem foldl_ofDigits (base start : Nat) (ds : List Char) :
    ds.foldl (fun n c => n * base + digitOf c) start =
      start * base ^ ds.length + ofDigits base ds := by
  induction ds generalizing start with
  | nil => simp [ofDigits]
  | cons c ds ih =>
    simp only [ofDigits, List.foldl_cons, List.length_cons, Nat.zero_mul, Nat.zero_add]
    rw [ih, ih (digitOf c), Nat.add_mul, Nat.pow_succ, Nat.mul_comm (base ^ _) base]
    simp [Nat.mul_assoc, Nat.add_assoc]

/-- The number of two runs of digits in a row. -/
theorem ofDigits_append (base : Nat) (xs ys : List Char) :
    ofDigits base (xs ++ ys) = ofDigits base xs * base ^ ys.length + ofDigits base ys := by
  simp [ofDigits, List.foldl_append, foldl_ofDigits base (List.foldl _ _ xs)]

/-- The number that digits denote, from the numbers of their halves. -/
def ofHalves (base : Nat) : (halvings : Nat) → List Char → Nat
  | 0, ds => ofDigits base ds
  | halvings + 1, ds =>
    let (high, low) := ds.splitAt (ds.length / 2)
    ofHalves base halvings high * base ^ low.length + ofHalves base halvings low

/-- Reading the digits by halves comes to the same. -/
private theorem ofHalves_eq (base halvings : Nat) (ds : List Char) :
    ofHalves base halvings ds = ofDigits base ds := by
  induction halvings generalizing ds with
  | zero => rfl
  | succ halvings ih =>
    simp only [ofHalves, List.splitAt_eq, ih, ← ofDigits_append, List.take_append_drop]

/-- The number that a long run of digits denotes. -/
def ofLongDigits (base : Nat) (ds : List Char) : Nat := ofHalves base (ds.length / 64).log2 ds

/-- A long run of digits denotes the number that each run denotes. -/
theorem ofLongDigits_eq (base : Nat) (ds : List Char) :
    ofLongDigits base ds = ofDigits base ds := ofHalves_eq base _ ds

end JavaFragments.Number

/-! ## Hexadecimal numbers of a fixed width -/

namespace JavaFragments.Text

/-- Digit of a number below 16, with upper case letters. -/
def upperHexDigit (n : Nat) : Char :=
  if n < 10 then Char.ofNat (48 + n) else Char.ofNat (55 + n)

/-- Digit of a number below 16, with lower case letters. -/
def lowerHexDigit (n : Nat) : Char :=
  if n < 10 then Char.ofNat (48 + n) else Char.ofNat (87 + n)

/-- The last `width` hexadecimal digits of `n`, most significant first. -/
def fixedHex (digit : Nat → Char) : (width : Nat) → (n : Nat) → List Char
  | 0, _ => []
  | width + 1, n => fixedHex digit width (n / 16) ++ [digit (n % 16)]

/-- A number of fixed width has so many digits. -/
@[simp] theorem length_fixedHex (digit : Nat → Char) (width n : Nat) :
    (fixedHex digit width n).length = width := by
  induction width generalizing n with
  | zero => rfl
  | succ w ih => simp [fixedHex, ih]

end JavaFragments.Text
