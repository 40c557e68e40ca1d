import JavaFragments.Text.Escape

/-! # UTF-16

Java source text and Java strings are sequences of code units of 16 bits.  A code point
beyond that range is written as two surrogates; every other one, a surrogate that stands
alone included, is a code unit itself:

* `unitsOf_cons`    the first character of a text of the 16-bit range
* `highSurrogate_lt`, `lowSurrogate_lt`   surrogates are code units -/

namespace JavaFragments.Text

/-- A code unit of 16 bits. -/
abbrev CodeUnit := UInt16

/-- The code unit of a character of the 16-bit range. -/
def unit (c : Char) : CodeUnit := UInt16.ofNat c.toNat

/-- The code units of a code point. -/
def CodePoint.units (p : CodePoint) : List CodeUnit :=
  if p.val ≤ 0xFFFF then [UInt16.ofNat p.val]
  else [UInt16.ofNat (highSurrogate p.val), UInt16.ofNat (lowSurrogate p.val)]

/-- The code units of a text. -/
def utf16 (text : CodePoints) : List CodeUnit := text.flatMap CodePoint.units

/-- The code units of characters. -/
def unitsOf (cs : List Char) : List CodeUnit := utf16 (cs.map .ofChar)

/-- The empty text has no code units. -/
@[simp] theorem utf16_nil : utf16 [] = [] := rfl

/-- The code units of a text start with those of its first code point. -/
@[simp] theorem utf16_cons (p : CodePoint) (text : CodePoints) :
    utf16 (p :: text) = p.units ++ utf16 text := rfl

/-- No characters have no code units. -/
@[simp] theorem unitsOf_nil : unitsOf [] = [] := rfl

/-- Code units are joined as texts are. -/
@[simp] theorem unitsOf_append (a b : List Char) : unitsOf (a ++ b) = unitsOf a ++ unitsOf b := by
  simp [unitsOf, utf16]

/-- A character of the 16-bit range is one code unit. -/
theorem unitsOf_cons {c : Char} (h : c.toNat ≤ 0xFFFF) (cs : List Char) :
    unitsOf (c :: cs) = unit c :: unitsOf cs := by
  have hunits : (CodePoint.ofChar c).units = [unit c] := if_pos h
  rw [unitsOf, List.map_cons, utf16_cons, hunits]
  rfl

/-- The high surrogate of a code point beyond the 16-bit range is a code unit. -/
theorem highSurrogate_lt (p : CodePoint) : highSurrogate p.val < 0x10000 := by
  have := p.isLt
  simp only [highSurrogate]
  omega

/-- The low surrogate of a code point beyond the 16-bit range is a code unit. -/
theorem lowSurrogate_lt (n : Nat) : lowSurrogate n < 0x10000 := by
  simp only [lowSurrogate]
  omega

end JavaFragments.Text
