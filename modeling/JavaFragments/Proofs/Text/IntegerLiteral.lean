import JavaFragments.Proofs.Number.WrittenInteger

/-! # Integer literals of Java

A decimal literal is of type `long` if it has the suffix of that type, and of type `int`
otherwise, whatever it is assigned to.  Its digits denote a number below the limit of its
type, or the limit itself where the literal is negated.  A text `initializes` a variable if
it is such a literal, perhaps with a sign, and its type is that of the variable or `int`:

* `readLiteral?_digits`    the digits of a number are a literal of type `int`
* `initializes_toString`   which integers can be written without a suffix
* `initializes_suffixed`   and which ones with it -/

namespace JavaFragments.Source

open Number

/-- The types of integers that are written. -/
inductive IntegerType
  | int
  | long
deriving DecidableEq, Repr

/-- The magnitude of the smallest integer of a type. -/
def IntegerType.limit : IntegerType → Nat
  | int => 2 ^ 31
  | long => 2 ^ 63

/-- A decimal literal: the number that its digits denote, and its type. -/
structure IntegerLiteral where
  magnitude : Nat
  type : IntegerType
deriving DecidableEq, Repr

/-- Whether characters are a decimal numeral: a zero, or digits of which the first one is no zero
    and between which underscores may stand. -/
def isDecimalNumeral (s : List Char) : Bool :=
  s = ['0'] ||
    s.all (fun c => c.isDigit || c = '_') && s.head?.any (fun c => c.isDigit && c ≠ '0') &&
      s.getLast?.any Char.isDigit

/-- The type of a literal and its numeral, which the suffix of the type stands behind. -/
def splitSuffix (s : List Char) : IntegerType × List Char :=
  if s.getLast?.any fun c => c = 'L' || c = 'l' then (.long, s.dropLast) else (.int, s)

/-- The decimal literal that characters are. -/
def readLiteral? (s : List Char) : Option IntegerLiteral :=
  let (type, numeral) := splitSuffix s
  if isDecimalNumeral numeral then some ⟨ofDigits 10 (numeral.filter (· ≠ '_')), type⟩ else none

/-- Whether the number of a literal is not too large; the limit is not where it is negated. -/
def IntegerLiteral.isInRange (negated : Bool) (l : IntegerLiteral) : Bool :=
  l.magnitude < l.type.limit || negated && l.magnitude = l.type.limit

/-- Whether a text initializes a variable of a type: a decimal literal, perhaps with a sign. -/
def initializes (t : IntegerType) (text : String) : Bool :=
  let (negated, s) := splitSign text.toList
  match readLiteral? s with
  | some l => l.isInRange negated && (l.type = .int || t = .long)
  | none => false

/-! ## Numerals -/

variable {ds : List Char}

/-- The digits of a number are a numeral. -/
private theorem isDecimalNumeral_toDigits (n : Nat) :
    isDecimalNumeral (Nat.toDigits 10 n) = true := by
  have hdigits : ∀ c ∈ Nat.toDigits 10 n, c.isDigit := fun c hc =>
    Nat.isDigit_of_mem_toDigits (by decide) (by decide) hc
  -- zero is a numeral by itself; no other number starts with a zero
  by_cases hzero : n = 0
  · subst hzero
    decide
  · obtain ⟨c, rest, hds⟩ := List.exists_cons_of_ne_nil (Nat.toDigits_ne_nil (n := n) (b := 10))
    have hhead : c ≠ '0' := by
      rintro rfl
      exact hzero (eq_zero_of_head_toDigits (by rw [hds, List.head?_cons]))
    rw [hds] at hdigits ⊢
    have hall : (c :: rest).all (fun c => c.isDigit || c = '_') = true :=
      List.all_eq_true.2 fun d hd => by simp [hdigits d hd]
    have hlast : (c :: rest).getLast?.any Char.isDigit = true := by
      rw [List.getLast?_eq_some_getLast (List.cons_ne_nil _ _)]
      exact hdigits _ (List.getLast_mem _)
    simp [isDecimalNumeral, hall, hlast, hhead, hdigits c List.mem_cons_self]

/-- Digits have no suffix. -/
private theorem splitSuffix_digits (h : ∀ c ∈ ds, c.isDigit) : splitSuffix ds = (.int, ds) := by
  have hnone : (ds.getLast?.any fun c => c = 'L' || c = 'l') = false := by
    cases hlast : ds.getLast? with
    | none => rfl
    | some c =>
      have hc := h c (List.mem_of_getLast? hlast)
      have hL : c ≠ 'L' := ne_of_isDigit hc (by decide)
      have hl : c ≠ 'l' := ne_of_isDigit hc (by decide)
      simp [hL, hl]
  rw [splitSuffix, hnone]
  rfl

/-- A suffix is taken off. -/
private theorem splitSuffix_append (ds : List Char) : splitSuffix (ds ++ ['L']) = (.long, ds) := by
  simp [splitSuffix]

/-- Digits denote the number that has these digits. -/
private theorem ofDigits_filter_toDigits (n : Nat) :
    ofDigits 10 ((Nat.toDigits 10 n).filter (· ≠ '_')) = n := by
  have hdigits : ∀ c ∈ Nat.toDigits 10 n, c.isDigit := fun c hc =>
    Nat.isDigit_of_mem_toDigits (by decide) (by decide) hc
  rw [List.filter_eq_self.2, ofDigits_eq_ofDigitChars hdigits, Nat.ofDigitChars_ten_toDigits]
  intro c hc
  exact decide_eq_true (ne_of_isDigit (hdigits c hc) (by decide))

/-- The digits of a number are a literal of type `int`, and of type `long` with the suffix. -/
theorem readLiteral?_digits (n : Nat) : readLiteral? (Nat.toDigits 10 n) = some ⟨n, .int⟩ := by
  have hdigits : ∀ c ∈ Nat.toDigits 10 n, c.isDigit := fun c hc =>
    Nat.isDigit_of_mem_toDigits (by decide) (by decide) hc
  simp only [readLiteral?, splitSuffix_digits hdigits, isDecimalNumeral_toDigits, if_true,
    ofDigits_filter_toDigits]

/-- With the suffix they are one of type `long`. -/
theorem readLiteral?_suffixed (n : Nat) :
    readLiteral? (Nat.toDigits 10 n ++ ['L']) = some ⟨n, .long⟩ := by
  simp only [readLiteral?, splitSuffix_append, isDecimalNumeral_toDigits, if_true,
    ofDigits_filter_toDigits]

/-! ## Written integers -/

/-- The sign of a written integer with something behind it. -/
private theorem splitSign_toString_append (n : Int) (suffix : List Char) :
    splitSign ((toString n).toList ++ suffix) =
      (decide (n < 0), Nat.toDigits 10 n.natAbs ++ suffix) := by
  rw [toList_toString_int]
  -- a number without a sign starts with a digit
  by_cases hneg : n < 0
  · simp [hneg, splitSign]
  · obtain ⟨c, rest, hds⟩ :=
      List.exists_cons_of_ne_nil (Nat.toDigits_ne_nil (n := n.natAbs) (b := 10))
    have hc : c.isDigit := Nat.isDigit_of_mem_toDigits (by decide) (by decide)
      (hds ▸ List.mem_cons_self)
    have hminus : c ≠ '-' := ne_of_isDigit hc (by decide)
    have hplus : c ≠ '+' := ne_of_isDigit hc (by decide)
    simp [hneg, hds, splitSign, hminus, hplus]

/-- The number of a written literal is in range if the integer is a value of the type. -/
private theorem isInRange_iff (n : Int) (t : IntegerType) :
    IntegerLiteral.isInRange (decide (n < 0)) ⟨n.natAbs, t⟩ = true ↔
      -(t.limit : Int) ≤ n ∧ n < t.limit := by
  simp only [IntegerLiteral.isInRange, Bool.or_eq_true, Bool.and_eq_true, decide_eq_true_eq]
  omega

/-- A literal without suffix is of type `int`, also where the variable is of type `long`. -/
theorem initializes_toString (t : IntegerType) (n : Int) :
    initializes t (toString n) = true ↔
      -(IntegerType.int.limit : Int) ≤ n ∧ n < IntegerType.int.limit := by
  -- no suffix means the type `int`, which does for both variables
  have hread : initializes t (toString n) =
      IntegerLiteral.isInRange (decide (n < 0)) ⟨n.natAbs, .int⟩ := by
    simp only [initializes, splitSign_toString, readLiteral?_digits, decide_true, Bool.true_or,
      Bool.and_true]
  rw [hread]
  exact isInRange_iff n .int

/-- With the suffix all integers of type `long` can be written, and none of type `int`. -/
theorem initializes_suffixed (t : IntegerType) (n : Int) :
    initializes t (toString n ++ "L") = true ↔
      t = .long ∧ -(IntegerType.long.limit : Int) ≤ n ∧ n < IntegerType.long.limit := by
  -- the suffix means the type `long`, which does for one
  have hread : initializes t (toString n ++ "L") =
      (decide (t = .long) && IntegerLiteral.isInRange (decide (n < 0)) ⟨n.natAbs, .long⟩) := by
    have hchars : (toString n ++ "L").toList = (toString n).toList ++ ['L'] :=
      String.toList_append
    simp only [initializes, hchars, splitSign_toString_append, readLiteral?_suffixed,
      reduceCtorEq, decide_false, Bool.false_or, Bool.and_comm]
  rw [hread, Bool.and_eq_true, decide_eq_true_eq]
  exact and_congr_right fun _ => isInRange_iff n .long

example : ["0", "1__0", "+12", "12L", "-2147483648", "2147483648", "007", "1_", "L"].map
    (initializes .long) = [true, true, true, true, true, false, false, false, false] := by decide

end JavaFragments.Source
