import JavaFragments.Text.CharRanges

/-! # White space and stripping

`isBlank` is white space in the sense of Unicode: the characters of bidirectional
class WS, B or S and the space separators.  `strip` removes it at both ends of a
text, `stripRight` at the end only. -/

namespace JavaFragments.Text

/-- The 29 white space characters. -/
def blanks : CharRanges := ⟨[
  (0x9, 0xD), (0x1C, 0x20), (0x85, 0x85), (0xA0, 0xA0), (0x1680, 0x1680), (0x2000, 0x200A),
  (0x2028, 0x2029), (0x202F, 0x202F), (0x205F, 0x205F), (0x3000, 0x3000)]⟩

/-- Whether `c` is white space. -/
def isBlank (c : Char) : Bool := blanks.contains c

/-- The text without white space at its start. -/
def stripLeft (s : List Char) : List Char := s.dropWhile isBlank

/-- The text without white space at its end. -/
def stripRight (s : List Char) : List Char := (s.reverse.dropWhile isBlank).reverse

/-- The text without white space at its start and end. -/
def strip (s : List Char) : List Char := stripRight (stripLeft s)

/-- The string without white space at its start and end. -/
def stripString (s : String) : String := String.ofList (strip s.toList)

/-- What is white space in ASCII is blank. -/
theorem isBlank_of_isWhitespace {c : Char} (h : c.isWhitespace = true) : isBlank c = true := by
  simp only [Char.isWhitespace, Bool.or_eq_true, decide_eq_true_eq] at h
  rcases h with ((rfl | rfl) | rfl) | rfl <;> decide

end JavaFragments.Text
