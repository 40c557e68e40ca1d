import JavaFragments.Random.Seed
import JavaFragments.Random.Twister

/-! # Random sources

A source answers two questions: a number below a bound, and a floating-point number from
zero to one.  It is a Mersenne Twister, or a script: a list of numbers that is read round
and round, one number for each answer.  Every answer is counted.

`started` starts a source again with a seed.  A script goes to the position that the seed
has modulo its length; a seed that is no whole number leads it astray, and it answers
nothing until it is started again:

* `below_lt`        answers are below their bound
* `fault?_below`    a source that can answer once can answer again
* `fault?_moveTo`   an integer leads no script astray -/

namespace JavaFragments.Random

-- a power is the one of the core library, whatever other powers are known
attribute [local instance (2000)] instPowNat

open Number

/-- Where the numbers of a source come from. -/
inductive Generator
  | script (numbers : List Nat) (position : Nat)
  | twister (t : Twister)
deriving DecidableEq

/-- A generator, and how many answers it has given. -/
structure Source where
  generator : Generator
  draws : Nat := 0
  /-- The type of the position that a script was sent to, if that is no number. -/
  astray : Option ValueType := none
deriving DecidableEq

namespace Generator

/-- The number at the position of a script. -/
def scripted (numbers : List Nat) (position : Nat) : Nat := numbers.getD position 0

/-- The position after a number is read. -/
def advance (numbers : List Nat) (position : Nat) : Nat := (position + 1) % numbers.length

/-- A number below `n`. -/
def below (n : Nat) : Generator → Nat × Generator
  | script numbers position =>
    (scripted numbers position % n, script numbers (advance numbers position))
  | twister t =>
    let (r, t) := t.below n
    (r, twister t)

/-- A number below 2⁵³. -/
def below53 : Generator → Nat × Generator
  | script numbers position =>
    (scripted numbers position % 2 ^ (53 : Nat), script numbers (advance numbers position))
  | twister t =>
    let (r, t) := t.below53
    (r, twister t)

/-- A generator answers below a positive bound. -/
theorem below_lt {n : Nat} (h : 0 < n) (g : Generator) : (g.below n).1 < n := by
  cases g with
  | script numbers position => exact Nat.mod_lt _ h
  | twister t => exact Twister.below_lt h t

end Generator

namespace Source

/-- A scripted source at its first number. -/
def ofScript (numbers : List Nat) : Source := ⟨.script numbers 0, 0, none⟩

/-- A Mersenne Twister started with a seed. -/
def ofSeed (seed : Seed) : Source := ⟨.twister (.ofNumber seed.number), 0, none⟩

/-- A number below `n`. -/
def below (n : Nat) (s : Source) : Nat × Source :=
  let (r, g) := s.generator.below n
  (r, { s with generator := g, draws := s.draws + 1 })

/-- A floating-point number from zero to one, one excluded: a multiple of 2⁻⁵³. -/
def random (s : Source) : Binary64 × Source :=
  let (r, g) := s.generator.below53
  (.ofRatio r (2 ^ (53 : Nat)), { s with generator := g, draws := s.draws + 1 })

/-- Why a source cannot answer. -/
def fault? (s : Source) : Option Misuse :=
  match s.astray, s.generator with
  | some t, _ => some (.notAPosition t)
  | none, .script [] _ => some .emptyScript
  | none, _ => none

/-- The source with its script at the position that a number has modulo its length. -/
def moveTo (numbers : List Nat) (n : Int) (s : Source) : Except Misuse Source :=
  if numbers = [] then .error (.zeroModulus .int)
  else .ok { s with generator := .script numbers (n % numbers.length).toNat, astray := none }

/-- The source with its script sent to a position that is no number. -/
def sendAstray (numbers : List Nat) (t : ValueType) (s : Source) : Source :=
  { s with generator := .script numbers 0, astray := some t }

/-- The source with its script started with a value; null is no seed. -/
def startScript (numbers : List Nat) (s : Source) : Value → Except Misuse Source
  | .null => .ok s
  | .bool b => s.moveTo numbers (if b then 1 else 0)
  | .int n => s.moveTo numbers n
  | .float _ =>
    if numbers = [] then .error (.zeroModulus .float) else .ok (s.sendAstray numbers .float)
  | .str t =>
    -- the length of the script is put into the text
    match Text.checkTemplate t with
    | .ok () => .ok (s.sendAstray numbers .str)
    | .error f => .error (.template f)
  | v => .error (.noRemainder v.type)

/-- The source started with a value; null is no seed.  What it has answered stays counted. -/
def started (s : Source) (v : Value) : Except Misuse Source :=
  match s.generator with
  | .script numbers _ => s.startScript numbers v
  | .twister _ => do
    match ← Seed.ofValue? v with
    | some seed => .ok { s with generator := .twister (.ofNumber seed.number), astray := none }
    | none => .ok s

/-- A source answers below a positive bound. -/
theorem below_lt {n : Nat} (h : 0 < n) (s : Source) : (s.below n).1 < n :=
  s.generator.below_lt h

/-- An answer is counted. -/
@[simp] theorem draws_below (n : Nat) (s : Source) : (s.below n).2.draws = s.draws + 1 := rfl

/-- So is one of the unit interval. -/
@[simp] theorem draws_random (s : Source) : s.random.2.draws = s.draws + 1 := rfl

/-- A source that can answer once can answer again. -/
@[simp] theorem fault?_below (n : Nat) (s : Source) : (s.below n).2.fault? = s.fault? := by
  obtain ⟨g, d, a⟩ := s
  cases g with
  | script numbers position => cases numbers <;> cases a <;> rfl
  | twister t => cases a <;> rfl

/-- It does not change what a source can do. -/
@[simp] theorem fault?_random (s : Source) : s.random.2.fault? = s.fault? := by
  obtain ⟨g, d, a⟩ := s
  cases g with
  | script numbers position => cases numbers <;> cases a <;> rfl
  | twister t => cases a <;> rfl

/-- An integer is a seed for every script with numbers in it. -/
theorem fault?_moveTo {numbers : List Nat} {n : Int} {s t : Source}
    (h : s.moveTo numbers n = .ok t) : t.fault? = none := by
  cases numbers with
  | nil => simp [moveTo] at h
  | cons u us =>
    simp only [moveTo, reduceCtorEq, if_false, Except.ok.injEq] at h
    subst h
    rfl

end Source

end JavaFragments.Random
