import JavaFragments.Number.Binary64
import JavaFragments.Number.Digits
import JavaFragments.Text.Blank
import JavaFragments.Text.DecimalDigit
import JavaFragments.Text.LowerCase
import JavaFragments.Text.Quoted

/-! # Numerals

Integers and floating-point numbers as they are written in options, and the limit on
their length.  White space around a numeral is ignored, decimal digits of all scripts
count, and one underscore may stand between two digits.

`readInt` reads an integer in base ten, or with a base given by its own mark (`0x`,
`0o`, `0b`); `readFloat` reads a floating-point number, `readBool` a truth value, and
`writeInt` writes an integer. -/

namespace JavaFragments.Number

-- a power is the one of the core library, whatever other powers are known
attribute [local instance (2000)] instPowNat

open Text

/-- Longest decimal numeral, in digits, that is converted to or from an integer. -/
def maxDigits : Nat := 4300

/-- An integer with too many decimal digits to be written. -/
structure TooLong where
deriving DecidableEq, Repr

/-- Wording of the refusal to write an integer. -/
def TooLong.message : TooLong → String
  | _ => s!"Exceeds the limit ({maxDigits} digits) for integer string conversion; " ++
      "use sys.set_int_max_str_digits() to increase the limit"

/-- The decimal numeral of an integer. -/
def writeInt (n : Int) : Except TooLong String :=
  if n.natAbs < 10 ^ maxDigits then .ok (toString n) else .error ⟨⟩

/-- How the base of an integer is found. -/
inductive Base
  /-- Base ten. -/
  | ten
  /-- The base that the numeral is marked with, ten if there is no mark. -/
  | marked
deriving DecidableEq, Repr

/-- Why a text is no value of the wanted type. -/
inductive NotANumeral
  | integer (base : Base) (text : String)
  | digits (count : Nat)
  | float (text : String)
  | truth (text : String)
deriving DecidableEq, Repr

/-- Wording of a refusal.  Of a long text only the start is shown for an integer. -/
def NotANumeral.message : NotANumeral → String
  | integer base text =>
    s!"invalid literal for int() with base {if base = .ten then 10 else 0}: " ++
      String.ofList (quoteStart 200 text.toList)
  | digits count =>
    s!"Exceeds the limit ({maxDigits} digits) for integer string conversion: " ++
      s!"value has {count} digits; use sys.set_int_max_str_digits() to increase the limit"
  | float text => s!"could not convert string to float: {quoted text}"
  | truth text => s!"Not a boolean: {text}"

/-- White space inside ASCII that is ignored around a numeral. -/
def isAsciiBlank (c : Char) : Bool := c = ' ' || (9 ≤ c.toNat && c.toNat ≤ 13)

/-- A character of a numeral in ASCII: white space and digits of all scripts are mapped to
    theirs, other characters outside ASCII to one that no numeral holds. -/
def toAscii (c : Char) : Char :=
  if c.toNat < 128 then c
  else if isBlank c then ' '
  else
    match digitValue? c with
    | some d => Char.ofNat (48 + d)
    | none => '?'

/-- The text of a numeral in ASCII and without white space around it. -/
def numeralChars (s : String) : List Char :=
  let t := (s.toList.map toAscii).dropWhile isAsciiBlank
  (t.reverse.dropWhile isAsciiBlank).reverse

/-- Splits off an optional sign; true stands for minus. -/
def splitSign : List Char → Bool × List Char
  | '-' :: s => (true, s)
  | '+' :: s => (false, s)
  | s => (false, s)

/-- The digits of a run of digits in which an underscore may stand between two of them. -/
def groupedDigits? (base : Nat) : List Char → Option (List Char)
  | [] => some []
  | [c] => if digitOf c < base then some [c] else none
  | c :: '_' :: d :: s =>
    if digitOf c < base ∧ d ≠ '_' then (groupedDigits? base (d :: s)).map (c :: ·) else none
  | c :: s => if digitOf c < base then (groupedDigits? base s).map (c :: ·) else none

/-- The base marked at the start of a numeral, and the numeral without the mark; an
    underscore may follow the mark. -/
def splitMark : List Char → Nat × List Char
  | s@('0' :: m :: r) =>
    let base :=
      if m = 'x' ∨ m = 'X' then 16 else if m = 'o' ∨ m = 'O' then 8
      else if m = 'b' ∨ m = 'B' then 2 else 10
    if base = 10 then (10, s) else (base, match r with | '_' :: r => r | r => r)
  | s => (10, s)

/-- Reads a run of digits in base `base` that is followed by nothing else.  A base that is
    no power of two limits the number of digits, whatever follows them. -/
def readDigits (bad : NotANumeral) (base : Nat) (s : List Char) : Except NotANumeral Nat :=
  let run := s.takeWhile fun c => digitOf c < base ∨ c = '_'
  match groupedDigits? base run with
  | none => .error bad
  | some ds =>
    if base = 10 ∧ maxDigits < ds.length then .error (.digits ds.length)
    else if ds = [] ∨ run.length ≠ s.length then .error bad
    else .ok (ofLongDigits base ds)

/-- Reads an integer.  Where the base may be marked, a decimal numeral other than zero has
    no zero in front. -/
def readInt (base : Base) (text : String) : Except NotANumeral Int := do
  let bad := NotANumeral.integer base text
  let (negative, s) := splitSign (numeralChars text)
  let (radix, s) := if base = .marked then splitMark s else (10, s)
  let n ← readDigits bad radix s
  if base = .marked ∧ radix = 10 ∧ s.head? = some '0' ∧ n ≠ 0 then .error bad
  else .ok (if negative then -(n : Int) else n)

/-- Whether `c` is a decimal digit of ASCII. -/
def isDigit (c : Char) : Bool := digitOf c < 10

/-- The text without its underscores, if each stands between two digits; `before` says
    whether a digit stands before the text. -/
def dropUnderscores? (before : Bool) : List Char → Option (List Char)
  | [] => some []
  | '_' :: s =>
    match s with
    | d :: _ => if before ∧ isDigit d then dropUnderscores? false s else none
    | [] => none
  | c :: s => (dropUnderscores? (isDigit c) s).map (c :: ·)

/-- Reads an optional exponent part that ends the text. -/
def readExponent? : List Char → Option Int
  | [] => some 0
  | e :: s =>
    let (negative, ds) := splitSign s
    if (e = 'e' ∨ e = 'E') ∧ ds ≠ [] ∧ ds.all isDigit then
      some (if negative then -(ofLongDigits 10 ds : Int) else ofLongDigits 10 ds)
    else none

/-- Reads digits with an optional point among or around them and an optional exponent. -/
def readMagnitude? (s : List Char) : Option Magnitude :=
  let whole := s.takeWhile isDigit
  let rest := s.dropWhile isDigit
  let (fraction, rest) :=
    match rest with
    | '.' :: r => (r.takeWhile isDigit, r.dropWhile isDigit)
    | r => ([], r)
  if whole = [] ∧ fraction = [] then none
  else
    (readExponent? rest).map fun e =>
      .ofDecimal (ofLongDigits 10 (whole ++ fraction)) (e - fraction.length)

/-- Reads a floating-point number. -/
def readFloat (text : String) : Except NotANumeral Binary64 :=
  let value? := do
    let s ← dropUnderscores? false (numeralChars text)
    let (negative, s) := splitSign s
    let word := String.ofList (s.map Char.toLower)
    if word = "nan" then some (.nan 0)
    else if word = "inf" ∨ word = "infinity" then some (.signed negative .infinity)
    else (readMagnitude? s).map (.signed negative)
  match value? with
  | some x => .ok x
  | none => .error (.float text)

/-- The words for true, and those for false. -/
def truthWords : List (String × Bool) := [
  ("1", true), ("yes", true), ("true", true), ("on", true),
  ("0", false), ("no", false), ("false", false), ("off", false)]

/-- Reads a truth value; the case of the letters does not matter. -/
def readBool (text : String) : Except NotANumeral Bool :=
  match truthWords.lookup (lower text) with
  | some b => .ok b
  | none => .error (.truth text)

end JavaFragments.Number
