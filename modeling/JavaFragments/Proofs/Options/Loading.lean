import JavaFragments.Options.Override
import JavaFragments.Proofs.Options.FileValue

/-! # Options one after the other

The options of a document are read one after the other, and overrides are applied one after
the other.  As no two of them are for the same option, each step can be told from what comes
of all:

* `load_eq_ok_iff`            the options of a document
* `convertOverride_eq_ok_iff` the overrides that are accepted
* `applyOverrides_eq_ok_iff`  the options after overrides -/

namespace JavaFragments

namespace OptionName

/-- A key is that of one option. -/
theorem ofKey?_eq_some_iff {key : String} {n : OptionName} : ofKey? key = some n ↔ key = n.key := by
  constructor
  · intro h
    have hkey := List.find?_some h
    simpa [eq_comm] using hkey
  · rintro rfl
    exact ofKey?_key n

/-- Different options have different keys. -/
theorem key_injective {m n : OptionName} (h : m.key = n.key) : m = n := by
  have hm := ofKey?_eq_some_iff.2 h
  rw [ofKey?_key] at hm
  exact Option.some.inj hm

end OptionName

/-- Different values of an option are different as values. -/
theorem OptionType.toValue_injective {t : OptionType} {v w : t.Carrier}
    (h : t.toValue v = t.toValue w) : v = w := by
  -- no seed is a value of its own
  cases t with
  | seed =>
    cases v with
    | none =>
      cases w with
      | none => rfl
      | some n => cases h
    | some m =>
      cases w with
      | none => cases h
      | some n => exact congrArg some (Value.int.inj h)
  | float => exact Value.float.inj h
  | bool => exact Value.bool.inj h
  | int => exact Value.int.inj h
  | str => exact Value.str.inj h

namespace Options

open Ini

/-- The options with given values. -/
def ofGet (f : (n : OptionName) → n.type.Carrier) : Options where
  seed := f .seed
  tryCatchWeight := f .tryCatchWeight
  randomVoid := f .randomVoid
  intMin := f .intMin
  intMax := f .intMax
  longMin := f .longMin
  longMax := f .longMax
  floatScale := f .floatScale
  stringMinLength := f .stringMinLength
  stringMaxLength := f .stringMaxLength
  varSuffixMax := f .varSuffixMax
  exceptionClass := f .exceptionClass
  throwMessage := f .throwMessage

/-- Options with given values have these values. -/
@[simp] theorem get_ofGet (f : (n : OptionName) → n.type.Carrier) (n : OptionName) :
    (ofGet f).get n = f n := by cases n <;> rfl

/-- An update changes one value. -/
private theorem eq_update_iff {o o' : Options} {n : OptionName} {v : n.type.Carrier} :
    o' = o.update n v ↔ o'.get n = v ∧ ∀ m, m ≠ n → o'.get m = o.get m := by
  constructor
  · rintro rfl
    exact ⟨get_update_self o n v, fun m hm => get_update_ne o (Ne.symm hm) v⟩
  · rintro ⟨hn, hother⟩
    apply ext_get
    intro m
    by_cases hm : m = n
    · subst hm
      rw [hn, get_update_self]
    · rw [hother m hm, get_update_ne o (Ne.symm hm)]

/-- An update to the value that other options have brings the options closer to them. -/
private theorem get_update_get {o o' : Options} {n m : OptionName}
    (h : m ≠ n → o'.get m = o.get m) :
    o'.get m = (o.update n (o'.get n)).get m := by
  by_cases hm : m = n
  · subst hm
    rw [get_update_self]
  · rw [get_update_ne o (Ne.symm hm), h hm]

/-! ## The options of a document -/

/-- What is found for an option is its value; else it keeps the one that it has. -/
def Loaded (d : Document) (n : OptionName) (old new : n.type.Carrier) : Prop :=
  (Found d n → Reads d n new) ∧ (¬ Found d n → new = old)

/-- One option is loaded, and all others stay. -/
theorem loadOption_eq_ok_iff {d : Document} {o o' : Options} {n : OptionName} :
    loadOption d o n = .ok o' ↔
      Loaded d n (o.get n) (o'.get n) ∧ ∀ m, m ≠ n → o'.get m = o.get m := by
  rw [loadOption, bind_eq_ok_iff]
  -- an option that is not found is left as it is
  by_cases h : Found d n
  · simp only [lookupAs_found h, Loaded, h, not_true, false_implies, true_implies, and_true]
    constructor
    · rintro ⟨_, ⟨v, rfl, hv⟩, ho⟩
      obtain ⟨hget, hother⟩ := eq_update_iff.1 (Except.ok.inj ho).symm
      exact ⟨hget ▸ hv, hother⟩
    · rintro ⟨hv, hother⟩
      exact ⟨_, ⟨_, rfl, hv⟩, congrArg Except.ok (eq_update_iff.2 ⟨rfl, hother⟩).symm⟩
  · rw [lookupAs_not_found h]
    simp only [Loaded, h, not_false_iff, false_implies, true_implies, true_and]
    constructor
    · rintro ⟨_, hr, ho⟩
      obtain rfl := Except.ok.inj hr
      obtain rfl := Except.ok.inj ho
      exact ⟨rfl, fun _ _ => rfl⟩
    · rintro ⟨hn, hother⟩
      refine ⟨none, rfl, congrArg Except.ok (ext_get fun m => ?_)⟩
      by_cases hm : m = n
      · exact hm ▸ hn.symm
      · exact (hother m hm).symm

/-- Options are loaded one after the other, each for itself. -/
theorem foldlM_loadOption {d : Document} {ns : List OptionName} (h : ns.Nodup)
    {o o' : Options} :
    ns.foldlM (loadOption d) o = .ok o' ↔
      (∀ n ∈ ns, Loaded d n (o.get n) (o'.get n)) ∧ ∀ n, n ∉ ns → o'.get n = o.get n := by
  -- on the options that are left; none of them comes twice
  induction ns generalizing o with
  | nil =>
    constructor
    · intro ho
      obtain rfl := Except.ok.inj ho
      exact ⟨List.forall_mem_nil _, fun _ _ => rfl⟩
    · rintro ⟨-, hsame⟩
      exact congrArg Except.ok (ext_get fun n => (hsame n List.not_mem_nil).symm)
  | cons n ns ih =>
    obtain ⟨hn, hns⟩ := List.nodup_cons.1 h
    rw [List.foldlM_cons, bind_eq_ok_iff]
    constructor
    · -- what was loaded first is not loaded again
      rintro ⟨o₁, hfirst, hrest⟩
      obtain ⟨hload, hother⟩ := loadOption_eq_ok_iff.1 hfirst
      obtain ⟨hloads, hothers⟩ := (ih hns).1 hrest
      refine ⟨List.forall_mem_cons.2 ⟨?_, fun m hm => ?_⟩, fun m hm => ?_⟩
      · rw [hothers n hn]
        exact hload
      · rw [← hother m fun e => hn (e ▸ hm)]
        exact hloads m hm
      · rw [List.mem_cons, not_or] at hm
        rw [hothers m hm.2, hother m hm.1]
    · rintro ⟨hloads, hothers⟩
      obtain ⟨hload, hloads⟩ := List.forall_mem_cons.1 hloads
      -- in between there is the value of the first option only
      refine ⟨o.update n (o'.get n), loadOption_eq_ok_iff.2 ⟨?_, fun m hm => ?_⟩,
        (ih hns).2 ⟨fun m hm => ?_, fun m hm => ?_⟩⟩
      · rw [get_update_self]
        exact hload
      · exact get_update_ne o (Ne.symm hm) _
      · rw [get_update_ne o fun e : n = m => hn (e ▸ hm)]
        exact hloads m hm
      · exact get_update_get fun hmn => hothers m fun hmem =>
          (List.mem_cons.1 hmem).elim hmn hm

/-- The options of a document are those that are found and the defaults of the others. -/
theorem load_eq_ok_iff {d : Document} {o : Options} :
    load d = .ok o ↔ ∀ n, Loaded d n (defaults.get n) (o.get n) := by
  -- all options are loaded, each of them once
  rw [load, foldlM_loadOption (by decide)]
  constructor
  · exact fun h n => h.1 n n.mem_all
  · exact fun h => ⟨fun n _ => h n, fun n hn => absurd n.mem_all hn⟩

/-! ## Overrides -/

/-- An override is one of an option if it has its key. -/
theorem nameOf_eq_ok_iff {key : String} {n : OptionName} : nameOf key = .ok n ↔ key = n.key := by
  rw [← OptionName.ofKey?_eq_some_iff, nameOf]
  cases OptionName.ofKey? key <;> simp

/-- An override that does is one of an option, with a value of its type. -/
theorem convertOverride_eq_ok_iff {key : String} {v x : Value} :
    convertOverride key v = .ok x ↔
      ∃ n, key = n.key ∧ ∃ c, convert n v = .ok c ∧ n.type.toValue c = x := by
  simp only [convertOverride, bind_eq_ok_iff, nameOf_eq_ok_iff, Except.ok.injEq]

/-- The converted value of an override of an option. -/
theorem convertOverride_key_eq_ok_iff {n : OptionName} {v : Value} {o : Options} :
    convertOverride n.key v = .ok (o.value n) ↔ convert n v = .ok (o.get n) := by
  rw [convertOverride_eq_ok_iff]
  constructor
  · rintro ⟨m, hm, c, hc, hx⟩
    obtain rfl := OptionName.key_injective hm
    rw [hc, OptionType.toValue_injective hx]
  · exact fun h => ⟨n, rfl, _, h, rfl⟩

/-- One option is overridden, and all others stay. -/
theorem applyOverride_eq_ok_iff {o o' : Options} {key : String} {v : Value} :
    applyOverride o key v = .ok o' ↔
      ∃ n, key = n.key ∧ convert n v = .ok (o'.get n) ∧ ∀ m, m ≠ n → o'.get m = o.get m := by
  simp only [applyOverride, bind_eq_ok_iff, nameOf_eq_ok_iff, Except.ok.injEq]
  constructor
  · rintro ⟨n, hkey, c, hc, ho⟩
    obtain ⟨hget, hother⟩ := eq_update_iff.1 ho.symm
    exact ⟨n, hkey, hget ▸ hc, hother⟩
  · rintro ⟨n, hkey, hc, hother⟩
    exact ⟨n, hkey, _, hc, (eq_update_iff.2 ⟨rfl, hother⟩).symm⟩

/-- Overrides of different options are applied each for itself. -/
theorem applyOverrides_eq_ok_iff {es : List (String × Value)} (h : (es.map Prod.fst).Nodup)
    {o o' : Options} :
    applyOverrides o es = .ok o' ↔
      (∀ e ∈ es, ∃ n : OptionName, e.1 = n.key ∧ convert n e.2 = .ok (o'.get n)) ∧
        ∀ n : OptionName, n.key ∉ es.map Prod.fst → o'.get n = o.get n := by
  -- on the overrides that are left; none of them has the key of another
  induction es generalizing o with
  | nil =>
    constructor
    · intro ho
      obtain rfl := Except.ok.inj ho
      exact ⟨List.forall_mem_nil _, fun _ _ => rfl⟩
    · rintro ⟨-, hsame⟩
      exact congrArg Except.ok (ext_get fun n => (hsame n List.not_mem_nil).symm)
  | cons e es ih =>
    obtain ⟨key, v⟩ := e
    obtain ⟨hkey, hes⟩ := List.nodup_cons.1 h
    rw [applyOverrides, bind_eq_ok_iff]
    constructor
    · rintro ⟨o₁, hfirst, hrest⟩
      obtain ⟨n, rfl, hc, hother⟩ := applyOverride_eq_ok_iff.1 hfirst
      obtain ⟨hall, hothers⟩ := (ih hes).1 hrest
      refine ⟨List.forall_mem_cons.2 ⟨⟨n, rfl, ?_⟩, hall⟩, fun m hm => ?_⟩
      · rw [hothers n hkey]
        exact hc
      · rw [List.map_cons, List.mem_cons, not_or] at hm
        rw [hothers m hm.2, hother m fun e => hm.1 (e ▸ rfl)]
    · rintro ⟨hall, hothers⟩
      obtain ⟨⟨n, rfl, hc⟩, hrest⟩ := List.forall_mem_cons.1 hall
      -- in between there is the value of the first override only
      refine ⟨o.update n (o'.get n), applyOverride_eq_ok_iff.2 ⟨n, rfl, ?_, fun m hm => ?_⟩,
        (ih hes).2 ⟨hrest, fun m hm => ?_⟩⟩
      · rw [get_update_self]
        exact hc
      · exact get_update_ne o (Ne.symm hm) _
      · exact get_update_get fun hmn => hothers m fun hmem =>
          (List.mem_cons.1 hmem).elim (fun hk => hmn (OptionName.key_injective hk)) hm

end Options

end JavaFragments
