import JavaFragments.Number.Digits
import JavaFragments.Text.Printable

/-! # Quoted text in messages

A text that is quoted in a message stands between apostrophes, or between double quotes
if it holds an apostrophe and no double quote.  The quote in use and the backslash are
escaped, line ends and tabs have short escapes, and every other character that is not
printable is written by its code point in two, four or eight hexadecimal digits. -/

namespace JavaFragments.Text

/-- The quote put around `s`. -/
def quoteFor (s : List Char) : Char :=
  if s.contains '\'' && !s.contains '"' then '"' else '\''

/-- The form of `c` between two `quote`s. -/
def quoteChar (quote c : Char) : List Char :=
  if c = quote ∨ c = '\\' then ['\\', c]
  else if c = '\n' then ['\\', 'n']
  else if c = '\r' then ['\\', 'r']
  else if c = '\t' then ['\\', 't']
  else if isPrintable c then [c]
  -- the shortest of the three widths that holds the code point
  else if c.toNat < 0x100 then '\\' :: 'x' :: fixedHex lowerHexDigit 2 c.toNat
  else if c.toNat < 0x10000 then '\\' :: 'u' :: fixedHex lowerHexDigit 4 c.toNat
  else '\\' :: 'U' :: fixedHex lowerHexDigit 8 c.toNat

/-- `s` in quotes, as it appears in messages. -/
def quoteChars (s : List Char) : List Char :=
  let quote := quoteFor s
  quote :: s.flatMap (quoteChar quote) ++ [quote]

/-- The first `n` characters of `s` in quotes; more than `n` characters of `s` are not
    written. -/
def quoteStart (n : Nat) (s : List Char) : List Char :=
  let quote := quoteFor s
  (quote :: (s.take n).flatMap (quoteChar quote) ++ [quote]).take n

/-- `s` in quotes, as it appears in messages. -/
def quoted (s : String) : String := String.ofList (quoteChars s.toList)

example : quoted "it's" = "\"it's\"" := by decide +kernel
example : quoted "a\"'\\\n" = "'a\"\\'\\\\\\n'" := by decide +kernel

end JavaFragments.Text
