import JavaFragments.Proofs.Effects.Refusal
import JavaFragments.Proofs.Generation.Outcome
import JavaFragments.Proofs.Number.IntegerRange
import JavaFragments.Proofs.Options.Priority
import Mathlib.Algebra.Group.Int.Defs

/-! # Options that are enough to generate

The check of options makes sure that no range is empty from which something is drawn.  It says
nothing of how large what is drawn may be, and a number can be so large that it has no text or
no nearest floating-point number.  Options are `WithinLimits` if none is as large as that:

* `succeeds_integer_iff`, `succeeds_float_iff`, `succeeds_varName_iff`   when a draw succeeds
  whatever is answered, for one range each
* `generates_iff`             when everything can be generated with consistent options
* `configure_generates_iff`   and when with a configuration that was accepted -/

namespace JavaFragments

namespace Fragment

open Number JavaFragments.Random

/-! ## Numerals -/

/-- An integer can be written if it has no more digits than any numeral may have. -/
private theorem exists_numeral_iff (n : Int) :
    (∃ text, numeral n = .ok text) ↔ n.natAbs < 10 ^ maxDigits := by
  unfold numeral writeInt
  by_cases h : n.natAbs < 10 ^ maxDigits <;> simp [h]

/-- Integer literals are always written if and only if every integer in the range can be. -/
theorem succeeds_drawInteger_iff {low high : Int} (h : low < high) :
    Succeeds (drawInteger (.int low) (.int high)) ↔
      ∀ n, low ≤ n → n < high → ∃ text, numeral n = .ok text := by
  constructor
  · -- a script of one number makes the draw come out as `n`
    intro hall n hlow hhigh
    obtain ⟨text, htext⟩ := hall (.ofScript [(n - low).toNat]) rfl
    refine ⟨text, ?_⟩
    rw [drawInteger, Draw.within_int, result_bind_fst
      (result_between_answering hlow hhigh (answering_ofScript _)), result_lift_fst] at htext
    exact htext
  · -- each draw gives a number of the range, which can be written
    intro hall
    have hgives : Gives (drawInteger (.int low) (.int high)) fun _ => True := by
      refine (gives_between h).bind fun n hn => ?_
      obtain ⟨text, htext⟩ := hall n hn.1 hn.2
      exact .lift htext trivial
    exact hgives.succeeds

/-- Floating-point literals are always written if and only if every number below the scale has a
    nearest floating-point number. -/
theorem succeeds_drawFloat_iff {scale : Int} (h : 0 < scale) :
    Succeeds (drawFloat (.int scale)) ↔
      ∀ n : Nat, (n : Int) < scale → ∃ x, Binary64.ofInt? n = some x := by
  constructor
  · -- the first number of the script is for the factor, which does not matter
    intro hall n hn
    obtain ⟨text, htext⟩ := hall (.ofScript [0, n]) rfl
    rw [drawFloat, result_bind_fst (congrArg Prod.fst (Draw.result_random rfl)),
      Draw.upToValue_int, Draw.result_random rfl,
      result_bind_fst (result_upTo_answering hn (answering_random 0 n))] at htext
    cases hx : Binary64.ofInt? n with
    | some x => exact ⟨x, rfl⟩
    | none =>
      rw [hx] at htext
      cases htext
  · intro hall
    have hgives : Gives (drawFloat (.int scale)) fun _ => True := by
      refine gives_random.bind fun x _ => ?_
      refine (gives_upTo h).bind fun n hn => ?_
      obtain ⟨y, hy⟩ := hall n hn
      rw [hy]
      exact .pure trivial
    exact hgives.succeeds

/-- Names of variables are always written if and only if every number below the bound can be. -/
theorem succeeds_drawVarName_iff {s : Settings} {bound : Int} (h : 0 < bound)
    (hs : s.get .varSuffixMax = .int bound) (methodName : String) :
    Succeeds (drawVarName s methodName) ↔
      ∀ n : Nat, (n : Int) < bound → ∃ text, numeral n = .ok text := by
  constructor
  · -- a script of one number makes it the suffix
    intro hall n hn
    obtain ⟨text, htext⟩ := hall (.ofScript [n]) rfl
    rw [drawVarName, hs, Draw.upToValue_int,
      result_bind_fst (result_upTo_answering hn (answering_ofScript n))] at htext
    cases hnumeral : numeral n with
    | ok text => exact ⟨text, rfl⟩
    | error f =>
      rw [hnumeral] at htext
      cases htext
  · intro hall
    have hgives : Gives (drawVarName s methodName) fun _ => True := by
      rw [drawVarName, hs]
      refine (gives_upTo h).bind fun n hn => ?_
      obtain ⟨text, htext⟩ := hall n hn
      have hwritten : Gives (liftM (numeral n) : Draw String) fun _ => True := .lift htext trivial
      exact hwritten.bind fun _ _ => .pure trivial
    exact hgives.succeeds

end Fragment

namespace Options

open Number Fragment JavaFragments.Random

/-- Whatever is asked of settings in a legal way can be generated, whatever the source answers: a
    literal of every kind that has some, a random kind, the name of a variable, a returned value,
    and the declaration of a variable. -/
structure Generates (s : Settings) : Prop where
  literal : ∀ k ≠ Kind.void, Succeeds (drawValue s (.kind k))
  kind : ∀ allowVoid, Succeeds (drawKind s allowVoid)
  varName : ∀ methodName, Succeeds (drawVarName s methodName)
  returned : ∀ k, Succeeds (defaultReturn s (.kind k))
  declaration : ∀ (d : Record) (k : Kind) (name : String) (declared : Value), k ≠ .void →
    d.get .type = .ok (.kind k) → d.name = .str name → d.get .declared = .ok declared →
      Succeeds (variableDeclaration s d)

/-- No option is so large that what is drawn with it could not be written. -/
structure WithinLimits (o : Options) : Prop where
  intMin : -((10 ^ maxDigits : Nat) : Int) < o.intMin
  intMax : o.intMax ≤ (10 ^ maxDigits : Nat)
  longMin : -((10 ^ maxDigits : Nat) : Int) < o.longMin
  longMax : o.longMax ≤ (10 ^ maxDigits : Nat)
  floatScale : o.floatScale ≤ Magnitude.overflow
  varSuffixMax : o.varSuffixMax ≤ (10 ^ maxDigits : Nat)

/-- A range lies within a limit if its first and its last integer do. -/
private theorem forall_natAbs_lt_iff {low high : Int} (h : low < high) (limit : Nat) :
    (∀ n : Int, low ≤ n → n < high → n.natAbs < limit) ↔ -(limit : Int) < low ∧ high ≤ limit := by
  constructor
  · intro hall
    -- the first and the last integer of the range are the largest in size
    have hlow := hall low (Int.le_refl _) h
    have hhigh := hall (high - 1) (by omega) (by omega)
    omega
  · intro ⟨hlow, hhigh⟩ n hn hn'
    omega

/-- So it does if it starts at zero. -/
private theorem forall_lt_iff {bound : Int} (h : 0 < bound) (limit : Nat) :
    (∀ n : Nat, (n : Int) < bound → n < limit) ↔ bound ≤ limit := by
  constructor
  · intro hall
    have hlast := hall (bound - 1).toNat (by omega)
    omega
  · intro hbound n hn
    omega

variable {o : Options}

/-- Integer literals are always written if both bounds can be, the upper one being excluded. -/
theorem succeeds_integer_iff {low high : Int} (h : low < high) :
    Succeeds (drawInteger (.int low) (.int high)) ↔
      -((10 ^ maxDigits : Nat) : Int) < low ∧ high ≤ (10 ^ maxDigits : Nat) := by
  have hrange := succeeds_drawInteger_iff h
  simp only [exists_numeral_iff] at hrange
  exact hrange.trans (forall_natAbs_lt_iff h _)

/-- Floating-point literals are always written if the scale is not beyond the range of the
    format. -/
theorem succeeds_float_iff (h : 1 ≤ o.floatScale) :
    Succeeds (drawFloat (.int o.floatScale)) ↔ o.floatScale ≤ Magnitude.overflow := by
  have hscale : 0 < o.floatScale := by omega
  rw [succeeds_drawFloat_iff hscale, ← forall_lt_iff hscale]
  exact forall_congr' fun n => imp_congr_right fun _ => Binary64.exists_ofInt?_iff n

/-- Names of variables are always written if the bound of their number can be. -/
theorem succeeds_varName_iff (h : 1 ≤ o.varSuffixMax) (methodName : String) :
    Succeeds (drawVarName (.ofOptions o) methodName) ↔
      o.varSuffixMax ≤ (10 ^ maxDigits : Nat) := by
  have hbound : 0 < o.varSuffixMax := by omega
  rw [succeeds_drawVarName_iff hbound rfl, ← forall_lt_iff hbound]
  exact forall_congr' fun n => imp_congr_right fun _ => exists_numeral_iff n

/-- A literal can always be written if the options of its kind are within their limits. -/
theorem succeeds_drawLiteral (h : Consistent o) (hlimits : o.WithinLimits) {k : Kind}
    (hk : k ≠ .void) : Succeeds (drawLiteral (.ofOptions o) k) := by
  -- numbers need their limits, and the other kinds need what the check says
  cases k with
  | int => exact (succeeds_integer_iff h.ints).2 ⟨hlimits.intMin, hlimits.intMax⟩
  | long => exact (succeeds_integer_iff h.longs).2 ⟨hlimits.longMin, hlimits.longMax⟩
  | float => exact (succeeds_float_iff h.scale).2 hlimits.floatScale
  | bool => exact (gives_oneOf _ _).succeeds
  | char => exact exactly_drawCharLiteral.gives.succeeds
  | string => exact (exactly_drawString h.lengths.1 h.lengths.2).gives.succeeds
  | void => exact absurd rfl hk

/-- What comes of a draw that succeeds can be put into any text. -/
private theorem succeeds_bind_lift {α β : Type} {d : Draw α} {k : α → Draw β} (h : Succeeds d)
    (hk : ∀ a, ∃ b, k a = pure b) : Succeeds (d >>= k) := by
  intro s hs
  obtain ⟨a, ha⟩ := h s hs
  obtain ⟨b, hb⟩ := hk a
  exact ⟨b, by rw [result_bind_fst ha, hb]; rfl⟩

/-- Options that are consistent are enough to generate if and only if they are within limits. -/
theorem generates_iff (h : Consistent o) : Generates (.ofOptions o) ↔ o.WithinLimits := by
  constructor
  · -- each limit comes from one thing that is generated, and two of them from a literal
    intro hall
    obtain ⟨intMin, intMax⟩ := (succeeds_integer_iff h.ints).1 (hall.literal .int nofun)
    obtain ⟨longMin, longMax⟩ := (succeeds_integer_iff h.longs).1 (hall.literal .long nofun)
    exact ⟨intMin, intMax, longMin, longMax,
      (succeeds_float_iff h.scale).1 (hall.literal .float nofun),
      (succeeds_varName_iff h.suffix "").1 (hall.varName "")⟩
  · intro hlimits
    exact {
      literal := fun k hk => succeeds_drawLiteral h hlimits hk
      kind := fun allowVoid => (gives_oneOf _ _).succeeds
      varName := fun methodName => (succeeds_varName_iff h.suffix methodName).2 hlimits.varSuffixMax
      -- a returned value is a literal with a word before it
      returned := by
        intro k
        by_cases hk : k = .void
        · -- nothing is drawn where nothing is returned
          subst hk
          exact fun s _ => ⟨_, rfl⟩
        · have hreturn : defaultReturn (.ofOptions o) (.kind k) =
              (do return s!"return {← drawValue (.ofOptions o) (.kind k)}") := by
            cases k <;> first | rfl | exact absurd rfl hk
          rw [hreturn]
          exact succeeds_bind_lift (succeeds_drawLiteral h hlimits hk) fun _ => ⟨_, rfl⟩
      -- so is the declaration of a variable
      declaration := by
        intro d k name declared hk htype hname hdeclared
        obtain ⟨type, hprefix⟩ := exists_typePrefix htype hdeclared
        have hdeclaration : variableDeclaration (.ofOptions o) d =
            drawValue (.ofOptions o) (.kind k) >>= fun value =>
              pure s!"{type}{name} = {value}" := by
          simp only [variableDeclaration, htype, hprefix, hname]
          rfl
        rw [hdeclaration]
        exact succeeds_bind_lift (succeeds_drawLiteral h hlimits hk) fun _ => ⟨_, rfl⟩ }

/-! ## Configurations -/

/-- Options that a configuration was made with can be used for everything that is generated, or
    else an option is beyond its limit. -/
theorem configure_generates_iff {env : Environment} {tree : FileTree} {request : Request}
    {c : Configuration} (h : configure env tree request = .ok c) :
    ∃ o, c.settings = .ofOptions o ∧ Consistent o ∧ (Generates c.settings ↔ o.WithinLimits) := by
  obtain ⟨path?, d, o, -, -, -, -, -, hconsistent, rfl⟩ := configure_eq_ok_iff.1 h
  exact ⟨o, rfl, hconsistent, generates_iff hconsistent⟩

/-- Overrides that leave the options consistent are accepted where no file is read. -/
theorem configure_of_overrides (env : Environment) (tree : FileTree)
    {overrides : List (String × Value)} {o : Options} (hnames : checkNames overrides = .ok ())
    (happly : applyOverrides defaults (OrderedMap.ofList overrides).entries = .ok o)
    (ho : Consistent o) :
    ∃ c, configure env tree { overrides } = .ok c ∧ c.settings = .ofOptions o := by
  -- an empty document leaves the defaults
  have hload : load .empty = .ok defaults := load_of_no_section rfl
  have hsources : ofSources .empty overrides = .ok o := by
    simp only [ofSources, hload, happly, check_eq_ok_iff_consistent.2 ho, bind, Except.bind]
  have hpath : Request.path? env { overrides } = .ok none := rfl
  simp only [configure_eq, hnames, hpath, documentOf, hsources, bind, Except.bind]
  exact ⟨_, rfl, rfl⟩

/-- A request for floating-point numbers below a scale. -/
def scaled (scale : Int) : Request := { overrides := [(OptionName.key .floatScale, .int scale)] }

/-- Every positive scale is accepted. -/
private theorem configure_scaled (env : Environment) (tree : FileTree) {scale : Int}
    (h : 1 ≤ scale) :
    ∃ c, configure env tree (scaled scale) = .ok c ∧
      c.settings = .ofOptions { defaults with floatScale := scale } :=
  configure_of_overrides env tree rfl rfl { consistent_defaults with scale := h }

/-- Settings tell which options they hold. -/
private theorem ofOptions_injective {o o' : Options} (h : Settings.ofOptions o = .ofOptions o') :
    o = o' :=
  ext_get fun n => OptionType.toValue_injective (congrArg (·.get n) h)

/-- The largest scale that everything can be generated with is accepted. -/
theorem configure_generates_iff_scaled :
    ∃ c, configure {} .empty (scaled Magnitude.overflow) = .ok c ∧ Generates c.settings := by
  have hscale : 1 ≤ (Magnitude.overflow : Int) := by decide +kernel
  have hlimits : WithinLimits { defaults with floatScale := Magnitude.overflow } :=
    ⟨by decide +kernel, by decide +kernel, by decide +kernel, by decide +kernel,
      Int.le_refl _, by decide +kernel⟩
  obtain ⟨c, hc, hsettings⟩ := configure_scaled {} .empty hscale
  obtain ⟨o, ho, -, hgenerates⟩ := configure_generates_iff hc
  obtain rfl := ofOptions_injective (hsettings.symm.trans ho)
  exact ⟨c, hc, hgenerates.2 hlimits⟩

/-- A larger scale is accepted too, though a number below it may be drawn that has no nearest
    floating-point number. -/
theorem exists_tooLarge_of_configure :
    ∃ c, configure {} .empty (scaled (2 ^ 1030)) = .ok c ∧
      ((drawValue c.settings (.kind .float)).result (.ofScript [0, 2 ^ 1030 - 1])).1 =
        .error .tooLarge := by
  -- the number that is drawn gets a name, as nothing should go through its digits
  obtain ⟨scale, hscale⟩ : ∃ scale, 2 ^ 1030 - 1 = scale := ⟨_, rfl⟩
  have hint : (2 ^ 1030 : Int) = scale + 1 := by
    rw [← hscale]
    decide +kernel
  have hnone : Binary64.ofInt? scale = none := by
    rw [← hscale]
    decide +kernel
  obtain ⟨c, hc, hsettings⟩ := configure_scaled {} .empty (show 1 ≤ (scale : Int) + 1 by omega)
  rw [hint, hscale]
  refine ⟨c, hc, ?_⟩
  rw [hsettings, drawValue_kind]
  show ((drawFloat (.int (scale + 1))).result _).1 = _
  rw [drawFloat, result_bind_fst (congrArg Prod.fst (Draw.result_random rfl)),
    Draw.upToValue_int, Draw.result_random rfl,
    result_bind_fst (result_upTo_answering (by omega) (answering_random 0 scale)), hnone]
  rfl

end Options

end JavaFragments
