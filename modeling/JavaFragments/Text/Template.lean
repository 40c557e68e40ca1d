/-! # Templates

A template is a text with places, marked by percent signs, that numbers are put into.
`checkTemplate` tells whether exactly one number fits into a template. -/

namespace JavaFragments.Text

-- a power is the one of the core library, whatever other powers are known
attribute [local instance (2000)] instPowNat

/-- Why one number does not fit into a template. -/
inductive TemplateFault
  /-- There is no place for the number. -/
  | unused
  /-- There is more than one place. -/
  | tooFew
  /-- A place is for something with a name. -/
  | needsNames
  /-- The template ends inside a place. -/
  | unfinished
  /-- The width of a place is no size. -/
  | tooWide
  /-- The precision of a place is no size. -/
  | tooPrecise
  /-- An integer is wanted with too many digits. -/
  | tooManyDigits
  /-- The text with the number in it would be too large. -/
  | tooLarge
  /-- There is no such sort of place. -/
  | unsupported (sort : Char) (index : Nat)
deriving DecidableEq, Repr

/-- Wording of a fault. -/
def TemplateFault.message : TemplateFault → String
  | unused => "not all arguments converted during string formatting"
  | tooFew => "not enough arguments for format string"
  | needsNames => "format requires a mapping"
  | unfinished => "incomplete format"
  | tooWide => "width too big"
  | tooPrecise => "precision too big"
  | tooManyDigits => "precision too large"
  | tooLarge => ""
  | unsupported sort index =>
    let shown := if 31 ≤ sort.toNat ∧ sort.toNat < 127 then sort else '?'
    let code := String.ofList (Nat.toDigits 16 sort.toNat)
    s!"unsupported format character '{shown}' (0x{code}) at index {index}"

/-- The sorts of places for an integer. -/
def integerSorts : List Char := ['d', 'i', 'u', 'o', 'x', 'X']

/-- The other sorts of places that a number can be put into. -/
def otherSorts : List Char := ['s', 'r', 'a', 'e', 'E', 'f', 'F', 'g', 'G', 'c']

/-- The largest number of digits that an integer can be wanted with. -/
def maxDigits : Nat := 2 ^ (31 : Nat) - 4

/-- The largest width of a place that there is room for. -/
def maxWidth : Nat := 10 ^ (10 : Nat)

/-- What is left of a template, the position there, and whether the number is used up. -/
structure TemplateRest where
  rest : List Char
  index : Nat
  used : Bool

namespace TemplateRest

/-- Uses the number. -/
def use (t : TemplateRest) : Except TemplateFault TemplateRest :=
  if t.used then .error .tooFew else .ok { t with used := true }

/-- Passes characters. -/
def skip (t : TemplateRest) (count : Nat) : TemplateRest :=
  { t with rest := t.rest.drop count, index := t.index + count }

/-- Passes a size: digits that denote at most `limit`, or a star, which uses the number; then
    no number is left for the place, so that its size does not matter. -/
def skipSize (t : TemplateRest) (limit : Nat) (fault : TemplateFault) :
    Except TemplateFault (Nat × TemplateRest) := do
  if t.rest.head? = some '*' then
    let t ← t.use
    .ok (0, t.skip 1)
  else
    let digits := t.rest.takeWhile fun c => '0' ≤ c ∧ c ≤ '9'
    let size := digits.foldl (fun n c => n * 10 + (c.toNat - 48)) 0
    if limit < size then .error fault else .ok (size, t.skip digits.length)

/-- Refuses a place of a sort that the number cannot be put into. -/
def checkPlace (t : TemplateRest) (sort : Char) (width precision : Nat) :
    Except TemplateFault Unit :=
  if sort ∉ integerSorts ∧ sort ∉ otherSorts then .error (.unsupported sort t.index)
  else if sort ∈ integerSorts ∧ maxDigits < precision then .error .tooManyDigits
  else if maxWidth < width then .error .tooLarge
  else .ok ()

/-- Which places the number can be put into. -/
theorem checkPlace_eq_ok_iff (t : TemplateRest) (sort : Char) (width precision : Nat) :
    t.checkPlace sort width precision = .ok () ↔
      (sort ∈ integerSorts ∨ sort ∈ otherSorts) ∧
        (sort ∈ integerSorts → precision ≤ maxDigits) ∧ width ≤ maxWidth := by
  unfold checkPlace
  grind

/-- Passes a place, of which the percent sign is passed already: signs, a width, a precision,
    a length, and the sort of the place. -/
def skipPlace (t : TemplateRest) : Except TemplateFault TemplateRest := do
  if t.rest.head? = some '%' then return t.skip 1
  if t.rest.head? = some '(' then throw .needsNames
  let t := t.skip (t.rest.takeWhile fun c => c ∈ ['-', '+', ' ', '#', '0']).length
  let (width, t) ← t.skipSize (2 ^ (63 : Nat) - 1) .tooWide
  let (precision, t) ←
    if t.rest.head? = some '.' then (t.skip 1).skipSize (2 ^ (31 : Nat) - 1) .tooPrecise
    else .ok (0, t)
  let t := if t.rest.head?.any fun c => c ∈ ['h', 'l', 'L'] then t.skip 1 else t
  match t.rest with
  | [] => .error .unfinished
  | sort :: _ =>
    let t ← t.use
    t.checkPlace sort width precision
    .ok (t.skip 1)

/-- Passes the whole template, which has at most `fuel` characters. -/
def finish : (fuel : Nat) → TemplateRest → Except TemplateFault Unit
  | 0, t => if t.used then .ok () else .error .unused
  | fuel + 1, t =>
    match t.rest with
    | [] => if t.used then .ok () else .error .unused
    | '%' :: _ => do (← (t.skip 1).skipPlace).finish fuel
    | _ :: _ => (t.skip 1).finish fuel

end TemplateRest

/-- Refuses a template that one number does not fit into. -/
def checkTemplate (s : String) : Except TemplateFault Unit :=
  TemplateRest.finish s.length ⟨s.toList, 0, false⟩

-- one number fits into the plainest place, and a text without any place has no use for it
example : checkTemplate "%d" = .ok () := by rfl
example : checkTemplate "seed" = .error .unused := by rfl

end JavaFragments.Text
