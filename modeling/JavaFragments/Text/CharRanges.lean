/-! # Sets of characters given by ranges of code points

A class of characters from the Unicode character database is kept as a list of
closed ranges.  `CharRanges.contains` is membership; `contains_iff` says so for
the code point of the character. -/

namespace JavaFragments.Text

/-- A set of characters: the union of closed ranges of code points. -/
structure CharRanges where
  /-- Lowest and highest code point of each range. -/
  bounds : List (Nat × Nat)

namespace CharRanges

/-- Whether the code point of `c` lies in one of the ranges. -/
def contains (r : CharRanges) (c : Char) : Bool :=
  r.bounds.any fun b => b.1 ≤ c.toNat && c.toNat ≤ b.2

/-- A character is in ranges if it is in one of them. -/
theorem contains_iff (r : CharRanges) (c : Char) :
    r.contains c = true ↔ ∃ b ∈ r.bounds, b.1 ≤ c.toNat ∧ c.toNat ≤ b.2 := by
  simp [contains]

end CharRanges

end JavaFragments.Text
