import JavaFragments.Number.Digits

/-! # Escaping text for Java literals

Java source text is a sequence of UTF-16 code units, and a string literal may hold any
of them.  `escapeCodePoint` gives the characters that stand for one code point between
the quotes of a literal; surrogates that stand alone are code points of their own, so
that every sequence of 16-bit units can be written.  The result is printable ASCII. -/

namespace JavaFragments.Text

/-- A Unicode code point; unlike a `Char` it may be a surrogate. -/
structure CodePoint where
  val : Nat
  isLt : val < 0x110000 := by decide
deriving DecidableEq, Repr

/-- The code point of a character. -/
def CodePoint.ofChar (c : Char) : CodePoint where
  val := c.toNat
  isLt := by
    have := c.valid
    simp only [UInt32.isValidChar, Nat.isValidChar] at this
    show c.val.toNat < 0x110000
    omega

/-- A sequence of code points. -/
abbrev CodePoints := List CodePoint

/-- The code points of a string. -/
def codePoints (s : String) : CodePoints := s.toList.map .ofChar

/-- A UTF-16 code unit as a Unicode escape of the Java language. -/
def unicodeEscape (unit : Nat) : List Char :=
  '\\' :: 'u' :: fixedHex upperHexDigit 4 unit

/-- High surrogate of a code point beyond the 16-bit range. -/
def highSurrogate (n : Nat) : Nat := 0xD800 + (n - 0x10000) / 0x400

/-- Low surrogate of a code point beyond the 16-bit range. -/
def lowSurrogate (n : Nat) : Nat := 0xDC00 + (n - 0x10000) % 0x400

/-- The control characters that have an escape of their own. -/
def namedEscape? : Nat → Option Char
  | 0x08 => some 'b'
  | 0x09 => some 't'
  | 0x0A => some 'n'
  | 0x0C => some 'f'
  | 0x0D => some 'r'
  | _ => none

/-- Whether a code point is a quote or the backslash. -/
def isDelimiter (n : Nat) : Bool := n == 0x27 || n == 0x22 || n == 0x5C

/-- What stands for the code point `p` inside a Java literal. -/
def escapeCodePoint (p : CodePoint) : List Char :=
  if isDelimiter p.val then ['\\', Char.ofNat p.val]
  else
    match namedEscape? p.val with
    | some c => ['\\', c]
    | none =>
      if 32 ≤ p.val ∧ p.val ≤ 126 then [Char.ofNat p.val]
      else if p.val ≤ 0xFFFF then unicodeEscape p.val
      else unicodeEscape (highSurrogate p.val) ++ unicodeEscape (lowSurrogate p.val)

/-- What stands for a text inside a Java string literal. -/
def escape (text : CodePoints) : List Char := text.flatMap escapeCodePoint

/-- `s` as it stands inside a Java string literal. -/
def escapeString (s : String) : String := String.ofList (escape (codePoints s))

/-- A text that should be one character and has another length. -/
structure NotOneCharacter where
  length : Nat
deriving DecidableEq, Repr

/-- Wording of the refusal. -/
def NotOneCharacter.message (e : NotOneCharacter) : String :=
  s!"ord() expected a character, but string of length {e.length} found"

/-- The delimiters in the order in which several of them count as one. -/
def delimiters : List Nat := [0x27, 0x22, 0x5C]

/-- Whether a text is a piece of `delimiters`, possibly an empty one. -/
def isDelimiterRun (text : List Nat) : Bool :=
  (List.range 4).any fun i => text.isPrefixOf (delimiters.drop i)

/-- What stands for a text that should be one character.  A run of delimiters, the empty
    one included, is escaped by one backslash in front of it. -/
def escapeCharacter (text : CodePoints) : Except NotOneCharacter (List Char) :=
  if isDelimiterRun (text.map CodePoint.val) then
    .ok ('\\' :: text.map fun p => Char.ofNat p.val)
  else
    match text with
    | [p] => .ok (escapeCodePoint p)
    | _ => .error ⟨text.length⟩

/-- The empty text is escaped to itself. -/
@[simp] theorem escape_nil : escape [] = [] := rfl

/-- A text is escaped code point by code point. -/
@[simp] theorem escape_cons (p : CodePoint) (text : CodePoints) :
    escape (p :: text) = escapeCodePoint p ++ escape text := rfl

/-- Texts may be escaped in parts. -/
@[simp] theorem escape_append (a b : CodePoints) : escape (a ++ b) = escape a ++ escape b := by
  simp [escape]

end JavaFragments.Text
