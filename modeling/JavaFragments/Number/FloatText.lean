import JavaFragments.Number.Shortest

/-! # Text of a floating-point number

A number is written with its shortest digits.  With its first digit at the power
10 ^ e it is written positionally for -4 ≤ e < 16, always with a point, and otherwise with
one digit before the point and an exponent of at least two digits. -/

namespace JavaFragments.Number

/-- A text padded on the left with zeros to the given width. -/
def padZeros (width : Nat) (s : List Char) : List Char :=
  List.replicate (width - s.length) '0' ++ s

/-- A positive exponent part such as `e+16`, or a negative one such as `e-05`. -/
def exponentText (e : Int) : List Char :=
  'e' :: (if e < 0 then '-' else '+') :: padZeros 2 (Nat.toDigits 10 e.natAbs)

/-- Text of the number whose digits `ds` start at the power `10 ^ e`. -/
def digitsText (ds : List Char) (e : Int) : List Char :=
  if e < -4 ∨ 16 ≤ e then
    match ds with
    | d :: (d' :: ds) => d :: '.' :: d' :: ds ++ exponentText e
    | ds => ds ++ exponentText e
  else if e < 0 then
    '0' :: '.' :: List.replicate (-e - 1).toNat '0' ++ ds
  else
    let whole := e.toNat + 1
    let fraction := ds.drop whole
    ds.take whole ++ List.replicate (whole - ds.length) '0' ++
      '.' :: (if fraction.isEmpty then ['0'] else fraction)

namespace Magnitude

/-- Text of a magnitude. -/
def text (m : Magnitude) : List Char :=
  if m.isFinite then
    let d := m.shortest
    let ds := Nat.toDigits 10 d.digits
    digitsText ds (d.exponent + ds.length - 1)
  else ['i', 'n', 'f']

end Magnitude

/-- Text of a number. -/
def Binary64.text : Binary64 → String
  | .nan _ => "nan"
  | .signed negative m => String.ofList ((if negative then ['-'] else []) ++ m.text)

end JavaFragments.Number
