/-! # The hash function SHA-512

A message of bytes is padded to blocks of 128 bytes, and each block changes a state of
eight words of 64 bits in eighty rounds.  The words that the state starts with and those
that are added in the rounds are the first 64 bits of the fractions of roots of primes. -/

namespace JavaFragments.Random.Sha512

-- a power is the one of the core library, whatever other powers are known
attribute [local instance (2000)] instPowNat

/-- The first eighty primes. -/
def primes : List Nat :=
  (List.range 410).filter fun n => 2 ≤ n && (List.range n).all fun d => d < 2 || n % d ≠ 0

/-- The largest number that is at least `r`, differs from it in the lower `bits` bits only,
    and has a `k`-th power that is at most `n`. -/
def rootFrom (k n : Nat) : (bits : Nat) → (r : Nat) → Nat
  | 0, r => r
  | bits + 1, r => rootFrom k n bits (if (r + 2 ^ bits) ^ k ≤ n then r + 2 ^ bits else r)

/-- The first 64 bits of the fraction of the `k`-th root of a prime. -/
def rootFraction (k p : Nat) : UInt64 := UInt64.ofNat (rootFrom k (p * 2 ^ (64 * k)) 72 0)

/-- The words that are added in the rounds: from cube roots. -/
def roundWords : Array UInt64 := (primes.map (rootFraction 3)).toArray

/-- The words that the state starts with: from square roots. -/
def firstState : Array UInt64 := ((primes.take 8).map (rootFraction 2)).toArray

/-- The word at a place. -/
def wordAt (words : Array UInt64) (i : Nat) : UInt64 := words.getD i 0

/-- The word rotated to the right. -/
def rotate (w : UInt64) (n : UInt64) : UInt64 := (w >>> n) ||| (w <<< (64 - n))

/-- The words of eight bytes each, most significant byte first. -/
def wordsOf : List UInt8 → List UInt64
  | a :: b :: c :: d :: e :: f :: g :: h :: rest =>
    [a, b, c, d, e, f, g, h].foldl (fun w byte => (w <<< 8) ||| byte.toUInt64) 0 :: wordsOf rest
  | _ => []

/-- The bytes of a number, most significant first. -/
def bytesOf (n : Nat) : (count : Nat) → List UInt8
  | 0 => []
  | count + 1 => UInt8.ofNat (n / 2 ^ (8 * count)) :: bytesOf n count

/-- A message filled up to whole blocks: a bit that is set, zeros, and the length in bits. -/
def padded (message : List UInt8) : List UInt8 :=
  let zeros := (239 - message.length % 128) % 128
  message ++ 0x80 :: List.replicate zeros 0 ++ bytesOf (8 * message.length) 16

/-- The words of the rounds of a block: its own sixteen, each other from four before it. -/
def schedule (block : Array UInt64) : Array UInt64 :=
  (List.range 64).foldl
    (fun (words : Array UInt64) (i : Nat) =>
      let a := wordAt words (i + 1)
      let b := wordAt words (i + 14)
      let s := rotate a 1 ^^^ rotate a 8 ^^^ (a >>> 7)
      let t := rotate b 19 ^^^ rotate b 61 ^^^ (b >>> 6)
      words.push (wordAt words i + s + wordAt words (i + 9) + t))
    block

/-- One round with its two words. -/
def round (state : Array UInt64) (word added : UInt64) : Array UInt64 :=
  let a := wordAt state 0
  let b := wordAt state 1
  let c := wordAt state 2
  let e := wordAt state 4
  let choice := (e &&& wordAt state 5) ^^^ (~~~e &&& wordAt state 6)
  let majority := (a &&& b) ^^^ (a &&& c) ^^^ (b &&& c)
  let s := rotate e 14 ^^^ rotate e 18 ^^^ rotate e 41
  let t := rotate a 28 ^^^ rotate a 34 ^^^ rotate a 39
  let first := wordAt state 7 + s + choice + added + word
  #[first + t + majority, a, b, c, wordAt state 3 + first, e, wordAt state 5, wordAt state 6]

/-- The state after a block. -/
def absorb (state : Array UInt64) (block : Array UInt64) : Array UInt64 :=
  let words := schedule block
  let mixed := (List.range 80).foldl
    (fun (s : Array UInt64) (i : Nat) => round s (wordAt words i) (wordAt roundWords i)) state
  ((List.range 8).map fun i => wordAt state i + wordAt mixed i).toArray

/-- The state after the blocks of a list of words. -/
def absorbAll : (count : Nat) → List UInt64 → Array UInt64 → Array UInt64
  | 0, _, state => state
  | count + 1, words, state =>
    absorbAll count (words.drop 16) (absorb state (words.take 16).toArray)

/-- The hash of a message, as a number of 512 bits. -/
def hash (message : List UInt8) : Nat :=
  let bytes := padded message
  let state := absorbAll (bytes.length / 128) (wordsOf bytes) firstState
  state.foldl (fun n w => n * 2 ^ (64 : Nat) + w.toNat) 0

end JavaFragments.Random.Sha512
