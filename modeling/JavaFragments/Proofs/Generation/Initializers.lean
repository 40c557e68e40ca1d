import JavaFragments.Proofs.Generation.Drawn
import JavaFragments.Proofs.Text.IntegerLiteral

/-! # Drawn integers as initializers

Integers are drawn without a suffix.  What is drawn for a variable of type `int` initializes it,
as long as the bounds are those of the type.  For a variable of type `long` that is so within the
range of `int` only, though the bounds of its own type are accepted:

* `forall_initializes_iff`   when all integers between two bounds initialize a variable
* `initializes_of_checked`   what is drawn with settings that pass their check -/

namespace JavaFragments.Options

open Number Fragment Source

/-- Two bounds are those of a type or lie between them. -/
def Within (t : IntegerType) (low high : Int) : Prop := -(t.limit : Int) ≤ low ∧ high ≤ t.limit

instance (t : IntegerType) (low high : Int) : Decidable (Within t low high) :=
  inferInstanceAs (Decidable (_ ∧ _))

/-- Bounds of one of the types can be written. -/
private theorem fits_of_within {t : IntegerType} {low high : Int} (h : low < high)
    (hwithin : Within t low high) : Fits low ∧ Fits high := by
  have hlimits : Fits (-(t.limit : Int)) ∧ Fits t.limit := by cases t <;> decide +kernel
  obtain ⟨hlow, hhigh⟩ := hwithin
  -- what lies between two numbers that can be written can be written
  constructor
  · exact fits_of_between hlimits.1 hlimits.2 hlow (by omega)
  · exact fits_of_between hlimits.1 hlimits.2 (by omega) hhigh

/-- What holds of everything that may be drawn holds of all integers in the range. -/
private theorem forall_outcome_iff {d : Draw String} {low high : Int} {P : String → Prop}
    (h : Exactly d fun text => ∃ n : Int, (low ≤ n ∧ n < high) ∧ text = toString n) :
    (∀ text, Outcome d text → P text) ↔ ∀ n : Int, low ≤ n → n < high → P (toString n) := by
  constructor
  · intro hall n hlow hhigh
    exact hall _ ((h.produces.outcome_iff _).2 ⟨n, ⟨hlow, hhigh⟩, rfl⟩)
  · intro hall text htext
    obtain ⟨n, ⟨hlow, hhigh⟩, rfl⟩ := (h.produces.outcome_iff text).1 htext
    exact hall n hlow hhigh

/-- All integers between two bounds initialize a variable if the bounds are those of `int`. -/
theorem forall_initializes_iff (t : IntegerType) {low high : Int} (h : low < high) :
    (∀ n : Int, low ≤ n → n < high → initializes t (toString n) = true) ↔
      Within .int low high := by
  simp only [initializes_toString]
  constructor
  · intro hall
    -- the range is not empty, so its first and its last number decide
    have hfirst := hall low (Int.le_refl _) h
    have hlast := hall (high - 1) (by omega) (by omega)
    exact ⟨hfirst.1, by omega⟩
  · rintro ⟨hlow, hhigh⟩ n hn hn'
    omega

/-- With settings that pass their check and have the bounds of the types, every text that may be
    drawn for a variable of type `int` initializes it, and with the suffix of the type every text
    would that may be drawn for a variable of type `long`.  As they are drawn these do if and only if
    their bounds are those of `int`. -/
theorem initializes_of_checked {s : Settings} {o : Options} (h : Checked s o)
    (hint : Within .int o.intMin o.intMax) (hlong : Within .long o.longMin o.longMax) :
    (Succeeds (drawValue s (.kind .int)) ∧
        ∀ text, Outcome (drawValue s (.kind .int)) text → initializes .int text = true) ∧
      (Succeeds (drawValue s (.kind .long)) ∧
        ∀ text, Outcome (drawValue s (.kind .long)) text → initializes .long (text ++ "L") = true) ∧
      ((∀ text, Outcome (drawValue s (.kind .long)) text → initializes .long text = true) ↔
        Within .int o.longMin o.longMax) := by
  obtain ⟨hints, hlongs, -⟩ := h.parts
  obtain ⟨hintMin, hintMax⟩ := fits_of_within hints hint
  obtain ⟨hlongMin, hlongMax⟩ := fits_of_within hlongs hlong
  have hdrawnInt := h.exactly_int hintMin hintMax
  have hdrawnLong := h.exactly_long hlongMin hlongMax
  refine ⟨⟨hdrawnInt.produces.succeeds, ?_⟩, ⟨hdrawnLong.produces.succeeds, ?_⟩, ?_⟩
  · -- for int as they are drawn
    exact (forall_outcome_iff hdrawnInt).2 ((forall_initializes_iff .int hints).2 hint)
  · -- for long with a suffix, which is not drawn
    refine (forall_outcome_iff hdrawnLong).2 fun n hlow hhigh => ?_
    exact (initializes_suffixed .long n).2
      ⟨rfl, Int.le_trans hlong.1 hlow, Int.lt_of_lt_of_le hhigh hlong.2⟩
  · exact (forall_outcome_iff hdrawnLong).trans (forall_initializes_iff .long hlongs)

/-- Options with the bounds of both types. -/
def widest : Options :=
  { defaults with
    intMin := -(IntegerType.int.limit : Int), intMax := IntegerType.int.limit
    longMin := -(IntegerType.long.limit : Int), longMax := IntegerType.long.limit }

/-- With the widest bounds every int initializes its variable, and not every long does. -/
theorem initializes_of_checked_widest :
    Checked (.ofOptions widest) widest ∧
      (∀ text, Outcome (drawValue (.ofOptions widest) (.kind .int)) text →
        initializes .int text = true) ∧
      ¬ ∀ text, Outcome (drawValue (.ofOptions widest) (.kind .long)) text →
        initializes .long text = true := by
  have hchecked : Checked (.ofOptions widest) widest := .ofOptions (check_eq_ok_iff_consistent.2
    { consistent_defaults with ints := by decide, longs := by decide })
  obtain ⟨⟨-, hint⟩, -, hlong⟩ := initializes_of_checked hchecked (by decide) (by decide)
  exact ⟨hchecked, hint, fun hall => absurd (hlong.1 hall) (by decide)⟩

/-- A request for one integer that is none of `int`. -/
def beyondInt : Request where
  overrides := [(OptionName.key .longMin, .int 2147483648), (OptionName.key .longMax, .int 2147483649)]

/-- Such bounds of a variable of type `long` are accepted, and what is drawn does not initialize
    it. -/
theorem not_initializes_of_configure :
    ∃ c, configure {} .empty beyondInt = .ok c ∧
      ((drawValue c.settings (.kind .long)).result (.ofScript [0])).1 = .ok "2147483648" ∧
      initializes .long "2147483648" = false ∧ initializes .long "2147483648L" = true := by
  have hnames : checkNames beyondInt.overrides = .ok () := rfl
  have happly : applyOverrides defaults (OrderedMap.ofList beyondInt.overrides).entries =
      .ok { defaults with longMin := 2147483648, longMax := 2147483649 } := rfl
  obtain ⟨c, hc, hsettings⟩ := configure_of_overrides {} .empty hnames happly
    { consistent_defaults with longs := by decide }
  refine ⟨c, hc, ?_, by decide, by decide⟩
  have hdrawn : ((Draw.between 2147483648 2147483649).result (.ofScript [0])).1 = .ok 2147483648 :=
    result_between_answering (by decide) (by decide) (answering_ofScript 0)
  rw [hsettings, drawValue_kind]
  show ((drawInteger (.int 2147483648) (.int 2147483649)).result _).1 = _
  rw [drawInteger, Draw.within_int, result_bind_fst hdrawn, result_lift_fst,
    numeral_of_fits (by decide +kernel)]
  rfl

end JavaFragments.Options
