import JavaFragments.Number.Binary64
import JavaFragments.Random.Sha512
import JavaFragments.Value.Misuse

/-! # Seeds

A random source is started with an integer, a floating-point number or a text.  A twister
wants a whole number: the absolute value of an integer, the residue of a floating-point
number modulo 2⁶¹ - 1, and for a text its bytes followed by their hash. -/

namespace JavaFragments.Random

-- a power is the one of the core library, whatever other powers are known
attribute [local instance (2000)] instPowNat

open Number

/-- What a source is started with. -/
inductive Seed
  | int (n : Int)
  | float (x : Binary64)
  | text (s : String)
deriving DecidableEq

namespace Seed

/-- The seed that a value is; null is none. -/
def ofValue? : Value → Except Misuse (Option Seed)
  | .null => .ok none
  | .bool b => .ok (some (int (if b then 1 else 0)))
  | .int n => .ok (some (int n))
  | .float x => .ok (some (float x))
  | .str s => .ok (some (text s))
  | _ => .error .notASeed

/-- Residue of a floating-point number modulo 2⁶¹ - 1, of which 2⁻¹⁰⁷⁴ has the residue 2²⁴;
    infinity has a residue of its own. -/
def residue : Binary64 → Int
  | .nan _ => 0
  | .signed negative m =>
    let r : Int := if m.isFinite then m.units * 2 ^ (24 : Nat) % (2 ^ (61 : Nat) - 1) else 314159
    if negative then -r else r

/-- The residue as a number of 64 bits; minus one is not used. -/
def floatNumber (x : Binary64) : Nat :=
  let r := residue x
  ((if r = -1 then -2 else r) % 2 ^ (64 : Nat)).toNat

/-- The number whose bytes are those of a text followed by their hash. -/
def textNumber (s : String) : Nat :=
  let bytes := s.toUTF8.toList
  bytes.foldl (fun n b => n * 2 ^ (8 : Nat) + b.toNat) 0 * 2 ^ (512 : Nat) + Sha512.hash bytes

/-- The whole number that a twister is started with. -/
def number : Seed → Nat
  | int n => n.natAbs
  | float x => floatNumber x
  | text s => textNumber s

end Seed

end JavaFragments.Random
