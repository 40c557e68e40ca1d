import JavaFragments.Options.Basic

/-! # Options in use

Options that are in use may be assigned to, and an assignment is not checked: `Settings`
hold a value of any type for every option.

* `get_set_self`, `get_set_ne`   the settings after an assignment
* `get_ofOptions`                settings before any assignment hold the options -/

namespace JavaFragments

open Number

/-- A value of any type for every option. -/
structure Settings where
  /-- The value of an option. -/
  get : OptionName → Value

namespace Settings

/-- The settings that hold the given options. -/
def ofOptions (o : Options) : Settings := ⟨o.value⟩

instance : Inhabited Settings := ⟨ofOptions .defaults⟩

/-- The settings with another value for an option. -/
def set (s : Settings) (n : OptionName) (v : Value) : Settings :=
  ⟨fun m => if m = n then v else s.get m⟩

/-- The settings with a value assigned to the option of a key; a key of none changes nothing. -/
def assign (s : Settings) (key : String) (v : Value) : Settings :=
  match OptionName.ofKey? key with
  | some n => s.set n v
  | none => s

/-- All values, which must not be too long to be shown. -/
def listing (s : Settings) : Except TooLong (List (OptionName × Value)) :=
  OptionName.all.mapM fun n => do
    let _ ← (s.get n).describe
    .ok (n, s.get n)

/-- Settings made of options have their values. -/
@[simp] theorem get_ofOptions (o : Options) (n : OptionName) : (ofOptions o).get n = o.value n :=
  rfl

/-- An option that is set has the new value. -/
@[simp] theorem get_set_self (s : Settings) (n : OptionName) (v : Value) : (s.set n v).get n = v := by
  simp [set]

/-- The other options keep theirs. -/
theorem get_set_ne (s : Settings) {m n : OptionName} (h : m ≠ n) (v : Value) :
    (s.set n v).get m = s.get m := by
  simp [set, h]

end Settings

end JavaFragments
