/-! # The Mersenne Twister

The generator MT19937: 624 words of 32 bits, all replaced by a recurrence when they are
used up, and a tempering of each word that is given out.  It is seeded with a whole
number through its words of 32 bits. -/

namespace JavaFragments.Random

-- a power is the one of the core library, whatever other powers are known
attribute [local instance (2000)] instPowNat

/-- The words of the generator and how many of them are used up. -/
structure Twister where
  words : Array UInt32
  used : Nat
deriving DecidableEq

namespace Twister

/-- How many words the generator has. -/
def size : Nat := 624

/-- The word at a place. -/
def word (words : Array UInt32) (i : Nat) : UInt32 := words.getD i 0

/-- Words filled from one word by a linear recurrence. -/
def fill (first : UInt32) : Array UInt32 :=
  (List.range (size - 1)).foldl
    (fun (words : Array UInt32) (i : Nat) =>
      let last := word words i
      words.push ((1812433253 : UInt32) * (last ^^^ (last >>> 30)) + UInt32.ofNat (i + 1)))
    #[first]

/-- The words of 32 bits of a number, least significant first; at least one. -/
def keyOf (n : Nat) : List UInt32 :=
  if n < 2 ^ (32 : Nat) then [UInt32.ofNat n] else UInt32.ofNat n :: keyOf (n / 2 ^ (32 : Nat))
termination_by n

/-- Words being mixed, and the place at which mixing goes on. -/
structure Mixing where
  words : Array UInt32
  place : Nat

namespace Mixing

/-- Mixes one word with the word before it, and goes on to the next place.  From the last
    place mixing goes back to the second one, and the first word is a copy of the last. -/
def step (m : Mixing) (factor : UInt32) (change : UInt32 → UInt32) : Mixing :=
  let before := word m.words (m.place - 1)
  let mixed := word m.words m.place ^^^ ((before ^^^ (before >>> 30)) * factor)
  let words := m.words.setIfInBounds m.place (change mixed)
  if m.place + 1 < size then ⟨words, m.place + 1⟩
  else ⟨words.setIfInBounds 0 (word words (size - 1)), 1⟩

/-- Mixes in the words of a key, which is repeated as often as needed. -/
def withKey (key : Array UInt32) : (count : Nat) → (j : Nat) → Mixing → Mixing
  | 0, _, m => m
  | count + 1, j, m =>
    -- places are counted from the start of the key again when it is used up
    let m := m.step 1664525 fun w => w + word key j + UInt32.ofNat j
    withKey key count (if j + 1 < key.size then j + 1 else 0) m

/-- Mixes in the places. -/
def withPlaces : (count : Nat) → Mixing → Mixing
  | 0, m => m
  | count + 1, m => withPlaces count (m.step 1566083941 fun w => w - UInt32.ofNat m.place)

end Mixing

/-- The generator started with a whole number. -/
def ofNumber (n : Nat) : Twister :=
  let key := (keyOf n).toArray
  let mixed := Mixing.withKey key (max size key.size) 0 ⟨fill 19650218, 1⟩
  let mixed := Mixing.withPlaces (size - 1) mixed
  ⟨mixed.words.setIfInBounds 0 0x80000000, size⟩

/-- Replaces the word at place `i`. -/
def renew (words : Array UInt32) (i : Nat) : Array UInt32 :=
  -- the top bit of this word with the other bits of the next
  let y := (word words i &&& 0x80000000) ||| (word words ((i + 1) % size) &&& 0x7FFFFFFF)
  let odd : UInt32 := if y &&& 1 = 1 then 0x9908B0DF else 0
  words.setIfInBounds i (word words ((i + 397) % size) ^^^ (y >>> 1) ^^^ odd)

/-- Spreads the bits of a word that is given out. -/
def temper (w : UInt32) : UInt32 :=
  let w := w ^^^ (w >>> 11)
  let w := w ^^^ ((w <<< 7) &&& 0x9D2C5680)
  let w := w ^^^ ((w <<< 15) &&& 0xEFC60000)
  w ^^^ (w >>> 18)

/-- The next word. -/
def next (t : Twister) : UInt32 × Twister :=
  let t := if t.used < size then t else ⟨(List.range size).foldl renew t.words, 0⟩
  (temper (word t.words t.used), { t with used := t.used + 1 })

/-- A number of `k` bits from `count` words, least significant first; only the upper bits of
    the last word count. -/
def bits : (count : Nat) → (k : Nat) → Twister → Nat × Twister
  | 0, _, t => (0, t)
  | count + 1, k, t =>
    let (w, t) := t.next
    if k ≤ 32 then (w.toNat >>> (32 - k), t)
    else
      let (rest, t) := bits count (k - 32) t
      (w.toNat + 2 ^ (32 : Nat) * rest, t)

/-- How many different generators there are. -/
@[irreducible] def stateCount : Nat := 2 ^ (32 * size) * (size + 1)

/-- Draws numbers of `k` bits until one is below `n`. -/
def belowFrom (n k : Nat) : (fuel : Nat) → Twister → Nat × Twister
  | 0, t => (0, t)
  | fuel + 1, t =>
    let (r, t) := bits ((k + 31) / 32) k t
    if r < n then (r, t) else belowFrom n k fuel t

/-- A number below `n`, drawn with as many bits as `n` has.  After as many attempts as there
    are generators none would ever succeed. -/
def below (n : Nat) (t : Twister) : Nat × Twister := belowFrom n (n.log2 + 1) stateCount t

/-- A number below 2⁵³, the upper bits drawn first. -/
def below53 (t : Twister) : Nat × Twister :=
  let (a, t) := t.next
  let (b, t) := t.next
  ((a >>> 5).toNat * 2 ^ (26 : Nat) + (b >>> 6).toNat, t)

/-- However often bits are drawn again, the answer is below the bound. -/
private theorem belowFrom_lt {n : Nat} (h : 0 < n) (k fuel : Nat) (t : Twister) :
    (belowFrom n k fuel t).1 < n := by
  induction fuel generalizing t with
  | zero => exact h
  | succ fuel ih =>
    simp only [belowFrom]
    split
    · assumption
    · exact ih _

/-- A generator answers below a positive bound. -/
theorem below_lt {n : Nat} (h : 0 < n) (t : Twister) : (t.below n).1 < n := by
  unfold below
  exact belowFrom_lt h _ _ t

end Twister

end JavaFragments.Random
