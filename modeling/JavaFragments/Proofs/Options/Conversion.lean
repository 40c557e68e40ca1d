import JavaFragments.Proofs.Number.NearestInteger
import JavaFragments.Proofs.Number.WrittenInteger
import JavaFragments.Proofs.Options.Loading
import Mathlib.Algebra.Group.Int.Defs

/-! # What becomes of an override

An option holds values of the type of its default, the seed integers besides.  An override with
such a value gives that value, and one with an integer for a floating-point option the number
nearest to it.  Everything else fails, most of it because the option is unknown or the type is
wrong; but an integer that no number is near to, and a value whose description needs an integer
that is too long to be written, fail without such a refusal:

* `describe_eq_ok_iff`         which values can be described
* `convertOverride_converts`   the ways in which an override is converted
* `convertOverride_checks`     what is returned and when, and every failure -/

namespace JavaFragments

open Number

/-! ## Values that can be described -/

namespace Value

mutual
/-- The integers in a value. -/
def integers : Value → List Int
  | int n => [n]
  | list items => integersOfAll items
  | _ => []

/-- The integers in the items of a list. -/
def integersOfAll : List Value → List Int
  | [] => []
  | v :: vs => integers v ++ integersOfAll vs
end

mutual
/-- A value can be described if every integer in it is short enough. -/
theorem describe_eq_ok_iff : (v : Value) → ((∃ s, v.describe = .ok s) ↔ ∀ n ∈ v.integers, Fits n)
  | null => by simp [describe, integers]
  | bool b => by simp [describe, integers]
  | int n => by simpa [describe, integers] using writeInt_eq_ok_iff
  | float x => by simp [describe, integers]
  | str s => by simp [describe, integers]
  | kind k => by simp [describe, integers]
  | list items => by
    rw [integers, ← describeAll_eq_ok_iff items]
    simp only [describe, bind_eq_ok_iff, Except.ok.injEq]
    -- a list is described if all of its items are
    constructor
    · rintro ⟨s, forms, hforms, -⟩
      exact ⟨forms, hforms⟩
    · rintro ⟨forms, hforms⟩
      exact ⟨_, forms, hforms, rfl⟩

/-- A list of values can be described if every integer in it is short enough. -/
private theorem describeAll_eq_ok_iff :
    (vs : List Value) → ((∃ ss, describeAll vs = .ok ss) ↔ ∀ n ∈ integersOfAll vs, Fits n)
  | [] => by simp [describeAll, integersOfAll]
  | v :: vs => by
    rw [integersOfAll, List.forall_mem_append, ← describe_eq_ok_iff v, ← describeAll_eq_ok_iff vs]
    simp only [describeAll, bind_eq_ok_iff, Except.ok.injEq]
    constructor
    · rintro ⟨ss, s, hs, rest, hrest, -⟩
      exact ⟨⟨s, hs⟩, rest, hrest⟩
    · rintro ⟨⟨s, hs⟩, rest, hrest⟩
      exact ⟨_, s, hs, rest, hrest, rfl⟩
end

end Value

/-! ## The types of an option -/

namespace OptionType

/-- The types of the values that an option of this type holds. -/
def holds : OptionType → ValueType → Bool
  | seed, .null | seed, .int | float, .float | bool, .bool | int, .int | str, .str => true
  | _, _ => false

/-- A value of a type that is held is converted to itself. -/
private theorem convert_of_holds {t : OptionType} {v : Value} (h : t.holds v.type) :
    ∃ c, t.convert v = .ok c ∧ t.toValue c = v := by
  cases t <;> cases v <;> first | exact absurd h Bool.false_ne_true | exact ⟨_, rfl, rfl⟩

/-- An integer is converted to the number nearest to it, if there is one. -/
private theorem convert_float_int {m : Int} {x? : Option Binary64} (h : Binary64.ofInt? m = x?) :
    float.convert (.int m) = x?.elim (.error .tooLarge) .ok := by
  rw [convert, h]

/-- A value of another type does not do, unless it is an integer for a floating-point number. -/
private theorem convert_of_not_holds {t : OptionType} {v : Value} (h : ¬ t.holds v.type)
    (hint : ¬ (t = .float ∧ v.type = .int)) : t.convert v = .error .wrongType := by
  cases t <;> cases v <;> first | exact absurd rfl h | exact absurd ⟨rfl, rfl⟩ hint | rfl

end OptionType

namespace OptionName

/-- An option holds values of the type of its default; the seed also holds integers. -/
def Holds (n : OptionName) (t : ValueType) : Prop :=
  t = (Options.defaults.value n).type ∨ n = .seed ∧ t = .int

/-- An override may have a type that the option holds, and an integer may stand for a
    floating-point number. -/
def Admits (n : OptionName) (t : ValueType) : Prop :=
  n.Holds t ∨ n = .tryCatchWeight ∧ t = .int

instance (n : OptionName) (t : ValueType) : Decidable (n.Holds t) :=
  inferInstanceAs (Decidable (_ ∨ _))

instance (n : OptionName) (t : ValueType) : Decidable (n.Admits t) :=
  inferInstanceAs (Decidable (_ ∨ _))

/-- Which types an option holds is told by its own type. -/
private theorem holds_iff {n : OptionName} {t : ValueType} : n.type.holds t ↔ n.Holds t := by
  cases n <;> cases t <;> decide

/-- The weight is the only option with a floating-point number. -/
private theorem eq_tryCatchWeight {n : OptionName} (h : n.type = .float) : n = .tryCatchWeight := by
  cases n <;> first | rfl | cases h

/-- A value of a type that is not admitted does not do. -/
private theorem convert_of_not_admits {n : OptionName} {v : Value} (h : ¬ n.Admits v.type) :
    n.type.convert v = .error .wrongType := by
  rw [Admits, not_or] at h
  exact OptionType.convert_of_not_holds (mt holds_iff.1 h.1)
    fun hint => h.2 ⟨eq_tryCatchWeight hint.1, hint.2⟩

end OptionName

namespace Options

/-! ## The ways in which an override is converted -/

/-- What becomes of an override. -/
inductive Converts (key : String) (v : Value) : Except Failure Value → Prop
  | kept (n : OptionName) (hkey : key = n.key) (hholds : n.Holds v.type) : Converts key v (.ok v)
  | rounded (m : Int) (x : Binary64) (hkey : key = OptionName.tryCatchWeight.key)
      (hint : v = .int m) (hnumber : Binary64.ofInt? m = some x) : Converts key v (.ok (.float x))
  | unknown (hkey : ∀ n : OptionName, key ≠ n.key) :
      Converts key v (.error (.rejected (.unknownOption key)))
  | wrongType (n : OptionName) (s : String) (hkey : key = n.key) (hadmits : ¬ n.Admits v.type)
      (hdescribe : v.describe = .ok s) : Converts key v (.error (.rejected (.wrongType n s)))
  | tooLong (n : OptionName) (hkey : key = n.key) (hadmits : ¬ n.Admits v.type)
      (hdescribe : ¬ ∀ m ∈ v.integers, Fits m) : Converts key v (.error (.tooLong ⟨⟩))
  | tooLarge (m : Int) (hkey : key = OptionName.tryCatchWeight.key) (hint : v = .int m)
      (hlarge : Magnitude.overflow ≤ m.natAbs) : Converts key v (.error .tooLarge)

/-- An override whose value is converted gives that value. -/
private theorem convertOverride_of_ok {n : OptionName} {v : Value} {c : n.type.Carrier}
    (h : n.type.convert v = .ok c) : convertOverride n.key v = .ok (n.type.toValue c) :=
  convertOverride_eq_ok_iff.2 ⟨n, rfl, c, by rw [convert, h], rfl⟩

/-- A failure to convert its value is that of the override. -/
private theorem convertOverride_of_error {n : OptionName} {v : Value} {e : Failure}
    (h : convert n v = .error e) : convertOverride n.key v = .error e := by
  rw [convertOverride, nameOf_eq_ok_iff.2 rfl]
  simp only [bind, Except.bind, h]

/-- A way of conversion is the one that an override takes. -/
theorem Converts.eq {key : String} {v : Value} {r : Except Failure Value}
    (h : Converts key v r) : convertOverride key v = r := by
  cases h with
  | kept n hkey hholds =>
    obtain ⟨c, hconvert, hvalue⟩ := OptionType.convert_of_holds (OptionName.holds_iff.2 hholds)
    rw [hkey, convertOverride_of_ok hconvert, hvalue]
  | rounded m x hkey hint hnumber =>
    have hconvert : OptionName.tryCatchWeight.type.convert (.int m) = .ok x :=
      OptionType.convert_float_int hnumber
    rw [hkey, hint, convertOverride_of_ok hconvert]
    rfl
  | unknown hkey =>
    have hnone : OptionName.ofKey? key = none := by
      cases hfind : OptionName.ofKey? key with
      | none => rfl
      | some n => exact absurd (OptionName.ofKey?_eq_some_iff.1 hfind) (hkey n)
    rw [convertOverride, nameOf, hnone]
    rfl
  | wrongType n s hkey hadmits hdescribe =>
    have hconvert := OptionName.convert_of_not_admits hadmits
    rw [hkey, convertOverride_of_error (by rw [convert, hconvert, hdescribe])]
  | tooLong n hkey hadmits hdescribe =>
    have hconvert := OptionName.convert_of_not_admits hadmits
    cases hfails : v.describe with
    | ok s => exact absurd (v.describe_eq_ok_iff.1 ⟨s, hfails⟩) hdescribe
    | error e => rw [hkey, convertOverride_of_error (by rw [convert, hconvert, hfails])]
  | tooLarge m hkey hint hlarge =>
    have hconvert : OptionName.tryCatchWeight.type.convert (.int m) = .error .tooLarge :=
      OptionType.convert_float_int (Binary64.ofInt?_eq_none_iff.2 hlarge)
    rw [hkey, hint, convertOverride_of_error (by rw [convert, hconvert])]

/-- There is a way of conversion for every key and every value. -/
private theorem exists_converts (key : String) (v : Value) : ∃ r, Converts key v r := by
  -- the key is that of an option, the type is admitted, and the integers can be written
  by_cases hknown : ∃ n : OptionName, key = n.key
  · obtain ⟨n, hkey⟩ := hknown
    by_cases hadmits : n.Admits v.type
    · rcases hadmits with hholds | ⟨rfl, hint⟩
      · exact ⟨_, .kept n hkey hholds⟩
      · obtain ⟨m, rfl⟩ : ∃ m, v = .int m := by
          cases v <;> first | exact ⟨_, rfl⟩ | cases hint
        cases hnumber : Binary64.ofInt? m with
        | some x => exact ⟨_, .rounded m x hkey rfl hnumber⟩
        | none => exact ⟨_, .tooLarge m hkey rfl (Binary64.ofInt?_eq_none_iff.1 hnumber)⟩
    · by_cases hfit : ∀ m ∈ v.integers, Fits m
      · obtain ⟨s, hs⟩ := v.describe_eq_ok_iff.2 hfit
        exact ⟨_, .wrongType n s hkey hadmits hs⟩
      · exact ⟨_, .tooLong n hkey hadmits hfit⟩
  · exact ⟨_, .unknown fun n hkey => hknown ⟨n, hkey⟩⟩

/-- Every override is converted in one of the ways, and in that one only. -/
theorem convertOverride_eq_iff {key : String} {v : Value} {r : Except Failure Value} :
    convertOverride key v = r ↔ Converts key v r := by
  constructor
  · rintro rfl
    obtain ⟨r, hr⟩ := exists_converts key v
    exact hr.eq ▸ hr
  · exact Converts.eq

/-- What is returned is a value that the option holds, the given one or the number nearest to the
    given integer, and is returned for itself.  Something is returned for every value that the
    option admits but an integer that is too large for a number.  What is not returned is refused,
    unless it is such an integer or cannot be described. -/
theorem convertOverride_checks (key : String) (v : Value) :
    (∀ x, convertOverride key v = .ok x →
      ∃ n : OptionName, key = n.key ∧ n.Holds x.type ∧
        (x = v ∨ n = .tryCatchWeight ∧ ∃ m y, v = .int m ∧ x = .float y ∧
          Binary64.ofInt? m = some y ∧ y.IsNearest m) ∧
        convertOverride key x = .ok x) ∧
    ((∃ x, convertOverride key v = .ok x) ↔
      ∃ n : OptionName, key = n.key ∧ n.Admits v.type ∧
        ∀ m, n = .tryCatchWeight → v = .int m → m.natAbs < Magnitude.overflow) ∧
    ∀ e, convertOverride key v = .error e ↔
      (∀ n : OptionName, key ≠ n.key) ∧ e = .rejected (.unknownOption key) ∨
      (∃ n : OptionName, key = n.key ∧ ¬ n.Admits v.type ∧
        ((∃ s, v.describe = .ok s ∧ e = .rejected (.wrongType n s)) ∨
          (∃ m ∈ v.integers, ¬ Fits m) ∧ e = .tooLong ⟨⟩)) ∨
      key = OptionName.tryCatchWeight.key ∧
        ∃ m, v = .int m ∧ Magnitude.overflow ≤ m.natAbs ∧ e = .tooLarge := by
  simp only [convertOverride_eq_iff]
  -- results, when there is one, and failures, each by the way that is taken
  refine ⟨fun x h => ?_, ⟨?_, ?_⟩, fun e => ⟨fun h => ?_, ?_⟩⟩
  · cases h with
    | kept n hkey hholds => exact ⟨n, hkey, hholds, .inl rfl, .kept n hkey hholds⟩
    | rounded m y hkey hint hnumber =>
      have hholds : OptionName.tryCatchWeight.Holds (Value.float y).type := .inl rfl
      exact ⟨_, hkey, hholds, .inr ⟨rfl, m, y, hint, rfl, hnumber,
        Binary64.isNearest_of_ofInt? hnumber⟩, .kept _ hkey hholds⟩
  · rintro ⟨x, h⟩
    cases h with
    | kept n hkey hholds =>
      refine ⟨n, hkey, .inl hholds, ?_⟩
      rintro m rfl rfl
      -- the weight holds no integer
      have hint : OptionName.tryCatchWeight.Holds .int := hholds
      exact absurd hint (by decide)
    | rounded m y hkey hint hnumber =>
      refine ⟨_, hkey, .inr ⟨rfl, by rw [hint]; rfl⟩, ?_⟩
      rintro k - rfl
      exact (Binary64.exists_ofInt?_iff k).1 ⟨y, Value.int.inj hint ▸ hnumber⟩
  · rintro ⟨n, hkey, hadmits, hsmall⟩
    obtain ⟨r, h⟩ := exists_converts key v
    cases h with
    | kept n hkey hholds => exact ⟨_, .kept n hkey hholds⟩
    | rounded m y hkey hint hnumber => exact ⟨_, .rounded m y hkey hint hnumber⟩
    | unknown hunknown => exact absurd hkey (hunknown n)
    | wrongType k s hk hrefused hdescribe =>
      exact absurd hadmits (OptionName.key_injective (hkey.symm.trans hk) ▸ hrefused)
    | tooLong k hk hrefused hdescribe =>
      exact absurd hadmits (OptionName.key_injective (hkey.symm.trans hk) ▸ hrefused)
    | tooLarge m hk hint hlarge =>
      have hlt := hsmall m (OptionName.key_injective (hkey.symm.trans hk)) hint
      exact absurd hlarge (Nat.not_le.2 hlt)
  · cases h with
    | unknown hkey => exact .inl ⟨hkey, rfl⟩
    | wrongType n s hkey hadmits hdescribe =>
      exact .inr (.inl ⟨n, hkey, hadmits, .inl ⟨s, hdescribe, rfl⟩⟩)
    | tooLong n hkey hadmits hdescribe =>
      refine .inr (.inl ⟨n, hkey, hadmits, .inr ⟨?_, rfl⟩⟩)
      simpa using hdescribe
    | tooLarge m hkey hint hlarge => exact .inr (.inr ⟨hkey, m, hint, hlarge, rfl⟩)
  · rintro (⟨hkey, rfl⟩ | ⟨n, hkey, hadmits, ⟨s, hdescribe, rfl⟩ | ⟨⟨m, hm, hlong⟩, rfl⟩⟩ |
      ⟨hkey, m, hint, hlarge, rfl⟩)
    · exact .unknown hkey
    · exact .wrongType n s hkey hadmits hdescribe
    · exact .tooLong n hkey hadmits fun hfit => hlong (hfit m hm)
    · exact .tooLarge m hkey hint hlarge

/-- An integer that is too large for a number has an admitted type, but there is neither a result
    nor a refusal; nor is there one of an integer of a wrong type that is too long to be written. -/
theorem convertOverride_overlarge :
    OptionName.tryCatchWeight.Admits (Value.int (10 ^ 400)).type ∧
      convertOverride "try_catch_weight" (.int (10 ^ 400)) = .error .tooLarge ∧
      ¬ OptionName.randomVoid.Admits (Value.int (10 ^ 4300)).type ∧
      convertOverride "random_void" (.int (10 ^ 4300)) = .error (.tooLong ⟨⟩) := by
  have hlong : ¬ ∀ m ∈ (Value.int (10 ^ 4300)).integers, Fits m := by
    simp only [Value.integers, List.forall_mem_singleton]
    decide +kernel
  refine ⟨.inr ⟨rfl, rfl⟩, ?_, ?_, ?_⟩
  · exact Converts.eq (.tooLarge (10 ^ 400) rfl rfl (by decide +kernel))
  · exact show ¬ OptionName.randomVoid.Admits .int by decide
  · exact Converts.eq (.tooLong .randomVoid rfl (show ¬ OptionName.randomVoid.Admits .int by decide)
      hlong)

end Options

end JavaFragments
