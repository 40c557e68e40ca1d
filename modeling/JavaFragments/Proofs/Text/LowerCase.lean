import Mathlib.Data.List.Basic
import JavaFragments.Proofs.Text.Strip
import JavaFragments.Text.LowerCase

/-! # Texts in lower case

A character stays as it is in lower case, or `Lowered` characters take its place: those are no
white space, and of the ASCII characters only small letters are among them.  That the second
step of lower-casing finds nothing to do is a property of the table, which is checked run by
run:

* `lowerRuns_misses`    no run leads to what a run maps
* `lowerFrom_cons`      what comes of one character
* `lower_lower`         a text in lower case stays as it is
* `strip_lowerFrom`     lower-casing brings no white space to the ends of a text -/

namespace JavaFragments.Text

namespace CaseRun

/-- Whether a run maps a code point. -/
def maps (r : CaseRun) (n : Nat) : Bool :=
  r.first ≤ n && n ≤ r.last && (n - r.first) % r.step == 0

/-- Where a run leads from a code point. -/
def target (r : CaseRun) (n : Nat) : Nat := (n + r.shift).toNat

-- Most pairs of runs are told apart by `avoids`, which therefore has to be quick to evaluate.

/-- Whether a run leads to nothing in a range of code points. -/
def avoids (r : CaseRun) (first last : Nat) : Bool :=
  Nat.blt (r.target r.last) first || Nat.blt last (r.target r.first)

/-- Whether a run leads to nothing that another run maps: it leads elsewhere, or in between. -/
def misses (r r' : CaseRun) : Bool :=
  r.avoids r'.first r'.last ||
    (r.first == r.last || r.step % r'.step == 0) &&
      r.target r.first % r'.step != r'.first % r'.step

variable {r r' : CaseRun} {n : Nat}

/-- A run maps the code points that are whole steps behind its first. -/
private theorem maps_iff : r.maps n ↔ r.first ≤ n ∧ n ≤ r.last ∧ r.step ∣ n - r.first := by
  simp [maps, Nat.dvd_iff_mod_eq_zero, and_assoc]

/-- A run avoids what lies before its lowest or behind its highest target. -/
private theorem avoids_iff {first last : Nat} :
    r.avoids first last ↔ r.target r.last < first ∨ last < r.target r.first := by
  simp [avoids, Nat.blt_eq]

/-- The two ways in which a run misses another one. -/
private theorem misses_iff : r.misses r' ↔ r.avoids r'.first r'.last ∨
    (r.first = r.last ∨ r'.step ∣ r.step) ∧ r.target r.first % r'.step ≠ r'.first % r'.step := by
  simp [misses, Nat.dvd_iff_mod_eq_zero]

/-- What a run leads to lies between where it leads from its ends. -/
private theorem target_mem (h : r.maps n) :
    r.target r.first ≤ r.target n ∧ r.target n ≤ r.target r.last := by
  obtain ⟨hfirst, hlast, -⟩ := maps_iff.1 h
  unfold target
  omega

/-- What a run leads to is not mapped by one that it misses. -/
private theorem not_maps_target (h : r.misses r') (hr : 0 ≤ r.first + r.shift) (hn : r.maps n) :
    ¬ r'.maps (r.target n) := by
  intro hn'
  obtain ⟨hlow, hhigh⟩ := target_mem hn
  obtain ⟨hfirst, hlast, hstep⟩ := maps_iff.1 hn
  obtain ⟨hfirst', hlast', hstep'⟩ := maps_iff.1 hn'
  -- it leads to another range, or between the steps of the other run
  obtain havoids | ⟨hdvd, hbetween⟩ := misses_iff.1 h
  · rw [avoids_iff] at havoids
    omega
  · -- whole steps of `r'` lead from the lowest code point to the one that is reached
    have hsteps : r'.step ∣ n - r.first := by
      rcases hdvd with hsingle | hdvd
      · have hzero : n - r.first = 0 := by omega
        rw [hzero]
        exact Nat.dvd_zero _
      · exact Nat.dvd_trans hdvd hstep
    obtain ⟨k, hk⟩ := hsteps
    obtain ⟨k', hk'⟩ := hstep'
    have htarget : r.target n = r.target r.first + r'.step * k := by
      unfold target
      omega
    have htarget' : r.target n = r'.first + r'.step * k' := by omega
    apply hbetween
    rw [← Nat.add_mul_mod_self_left _ r'.step k, ← htarget, htarget', Nat.add_mul_mod_self_left]

end CaseRun

/-! ## The table -/

/-- Code points that no run leads to: ASCII characters besides the small letters, white space,
    the two capital letters that no run maps alone, and numbers that are no characters. -/
def unreached : List (Nat × Nat) :=
  [(0, 0x60), (0x7B, 0x7F), (0x130, 0x130), (0x3A3, 0x3A3), (0xD800, 0xDFFF)] ++ blanks.bounds

/-- All runs of the table lead to code points. -/
private theorem lowerRuns_bounded :
    ∀ r ∈ lowerRuns, 0 ≤ r.first + r.shift ∧ r.target r.last < 0x110000 := by
  decide +kernel

/-- No run of the table leads to one of these. -/
private theorem lowerRuns_avoids :
    ∀ r ∈ lowerRuns, ∀ bounds ∈ unreached, r.avoids bounds.1 bounds.2 := by
  have hall : (lowerRuns.all fun r => unreached.all fun bounds => r.avoids bounds.1 bounds.2) := by
    decide +kernel
  simpa only [List.all_eq_true] using hall

/-- No run leads to what a run maps. -/
theorem lowerRuns_misses : ∀ r ∈ lowerRuns, ∀ r' ∈ lowerRuns, r.misses r' := by
  have hall : (lowerRuns.all fun r => lowerRuns.all r.misses) := by decide +kernel
  simpa only [List.all_eq_true] using hall

/-! ## Characters -/

/-- A character that is left as it is wherever it stands. -/
def Stays (c : Char) : Prop := c ≠ '\u03A3' ∧ lowerChar c = [c]

/-- A character that may take the place of another one. -/
structure Lowered (c : Char) : Prop where
  plain : isBlank c = false
  letter : c.toNat < 128 → 'a' ≤ c ∧ c ≤ 'z'

instance (c : Char) : Decidable (Stays c) := inferInstanceAs (Decidable (_ ∧ _))

instance (c : Char) : Decidable (Lowered c) :=
  decidable_of_iff (isBlank c = false ∧ (c.toNat < 128 → 'a' ≤ c ∧ c ≤ 'z'))
    ⟨fun h => ⟨h.1, h.2⟩, fun h => ⟨h.plain, h.letter⟩⟩

/-- What comes of a character: itself or others, which stay as they are from then on. -/
def Becomes (c : Char) (cs : List Char) : Prop :=
  cs ≠ [] ∧ (∀ d ∈ cs, Stays d) ∧ (cs = [c] ∨ ∀ d ∈ cs, Lowered d)

instance (c : Char) (cs : List Char) : Decidable (Becomes c cs) :=
  decidable_of_iff (cs ≠ [] ∧ cs.all (Stays ·) ∧ (cs = [c] ∨ cs.all (Lowered ·)))
    (by simp only [Becomes, List.all_eq_true, decide_eq_true_iff])

/-- The lower case form of a character by the runs of the table. -/
private theorem lowerChar_eq (c : Char) : lowerChar c =
    if c.toNat < 128 then [c.toLower]
    else if c = '\u0130' then ['i', '\u0307']
    else
      match lowerRuns.find? fun r => r.maps c.toNat with
      | some r => [Char.ofNat (r.target c.toNat)]
      | none => [c] := rfl

/-- The ASCII characters behind the capital letters stay. -/
private theorem lowerChar_ofNat :
    ∀ n < 128, 0x60 < n → lowerChar (Char.ofNat n) = [Char.ofNat n] := by
  decide +kernel

/-- What comes of the ASCII characters, checked one by one. -/
private theorem becomes_ascii : ∀ n < 128, Becomes (Char.ofNat n) [(Char.ofNat n).toLower] := by
  decide +kernel

/-- What a run leads to is a character that is in none of the ranges. -/
private theorem exists_reached {r : CaseRun} (hr : r ∈ lowerRuns) {n : Nat} (h : r.maps n) :
    ∃ d : Char, Char.ofNat (r.target n) = d ∧ d.toNat = r.target n ∧
      ∀ bounds ∈ unreached, ¬ (bounds.1 ≤ d.toNat ∧ d.toNat ≤ bounds.2) := by
  obtain ⟨hlow, hhigh⟩ := CaseRun.target_mem h
  have havoids : ∀ bounds ∈ unreached,
      ¬ (bounds.1 ≤ r.target n ∧ r.target n ≤ bounds.2) := by
    intro bounds hbounds
    have havoids := CaseRun.avoids_iff.1 (lowerRuns_avoids r hr bounds hbounds)
    omega
  -- it is no half of a surrogate pair, and small enough
  have hvalid : (r.target n).isValidChar := by
    have hsurrogate := havoids (0xD800, 0xDFFF) (by decide)
    have hbounded := (lowerRuns_bounded r hr).2
    unfold Nat.isValidChar
    omega
  have hnumber : (Char.ofNat (r.target n)).toNat = r.target n := by
    rw [Char.ofNat, dif_pos hvalid]
    rfl
  exact ⟨_, rfl, hnumber, by rwa [hnumber]⟩

/-- A character that a run leads to. -/
private theorem becomes_of_maps {r : CaseRun} (hr : r ∈ lowerRuns) {c : Char} (h : r.maps c.toNat) :
    Becomes c [Char.ofNat (r.target c.toNat)] := by
  obtain ⟨d, hd, hnumber, havoids⟩ := exists_reached hr h
  rw [hd]
  -- white space and the other ASCII characters are not reached
  have hlowered : Lowered d := by
    constructor
    · rw [Bool.eq_false_iff]
      intro hblank
      obtain ⟨bounds, hbounds, hmem⟩ := (CharRanges.contains_iff _ _).1 hblank
      exact havoids bounds (List.mem_append_right _ hbounds) hmem
    · intro hascii
      have hbelow := havoids (0, 0x60) (by decide)
      have habove := havoids (0x7B, 0x7F) (by decide)
      have hletter : 97 ≤ d.toNat ∧ d.toNat ≤ 122 := by omega
      exact ⟨UInt32.le_iff_toNat_le.2 hletter.1, UInt32.le_iff_toNat_le.2 hletter.2⟩
  -- neither are the two letters that are treated alone
  have hstays : Stays d := by
    have hsigma : d ≠ '\u03A3' := by
      rintro rfl
      exact havoids (0x3A3, 0x3A3) (by decide) (by decide)
    refine ⟨hsigma, ?_⟩
    by_cases hascii : d.toNat < 128
    · have hbelow := havoids (0, 0x60) (by decide)
      have hd := lowerChar_ofNat d.toNat hascii (by omega)
      rwa [Char.ofNat_toNat] at hd
    · have hdot : d ≠ '\u0130' := by
        rintro rfl
        exact havoids (0x130, 0x130) (by decide) (by decide)
      -- no run goes on from where `r` leads
      have hfind : lowerRuns.find? (fun r' => r'.maps d.toNat) = none := by
        rw [List.find?_eq_none]
        intro r' hr'
        rw [hnumber]
        exact CaseRun.not_maps_target (lowerRuns_misses r hr r' hr') (lowerRuns_bounded r hr).1 h
      simp only [lowerChar_eq, hascii, hdot, hfind, if_false]
  exact ⟨List.cons_ne_nil _ _, List.forall_mem_singleton.2 hstays,
    .inr (List.forall_mem_singleton.2 hlowered)⟩

/-- What comes of a character that is not looked at together with others. -/
private theorem becomes_lowerChar {c : Char} (h : c ≠ '\u03A3') : Becomes c (lowerChar c) := by
  -- ASCII, the capital with a dot, a character of a run, or any other one
  by_cases hascii : c.toNat < 128
  · have hc := becomes_ascii c.toNat hascii
    rwa [Char.ofNat_toNat, ← lowerChar_of_ascii hascii] at hc
  by_cases hdot : c = '\u0130'
  · subst hdot
    decide +kernel
  cases hfind : lowerRuns.find? fun r => r.maps c.toNat with
  | some r =>
    have hc : lowerChar c = [Char.ofNat (r.target c.toNat)] := by
      simp only [lowerChar_eq, hascii, hdot, hfind, if_false]
    rw [hc]
    have hmaps : r.maps c.toNat :=
      List.find?_some (p := fun r : CaseRun => r.maps c.toNat) hfind
    exact becomes_of_maps (List.mem_of_find?_eq_some hfind) hmaps
  | none =>
    have hc : lowerChar c = [c] := by simp only [lowerChar_eq, hascii, hdot, hfind, if_false]
    rw [hc]
    exact ⟨List.cons_ne_nil _ _, List.forall_mem_singleton.2 ⟨h, hc⟩, .inl rfl⟩

/-- What comes of one character in a text. -/
theorem lowerFrom_cons (b : Bool) (c : Char) (rest : List Char) :
    ∃ cs b', Becomes c cs ∧ lowerFrom b (c :: rest) = cs ++ lowerFrom b' rest := by
  refine ⟨_, _, ?_, rfl⟩
  -- a sigma at the end of a word has a form of its own
  split
  · rename_i hsigma
    subst hsigma
    split <;> decide +kernel
  · exact becomes_lowerChar ‹_›

/-! ## Texts -/

variable {b : Bool} {s : List Char} {d : Char}

/-- Whatever is in a text in lower case stays as it is. -/
private theorem stays_of_mem_lowerFrom (h : d ∈ lowerFrom b s) : Stays d := by
  induction s generalizing b with
  | nil => exact nomatch h
  | cons c rest ih =>
    obtain ⟨cs, b', ⟨-, hstays, -⟩, hlower⟩ := lowerFrom_cons b c rest
    rw [hlower] at h
    rcases List.mem_append.1 h with h | h
    · exact hstays d h
    · exact ih h

/-- A text of such characters stays as it is. -/
private theorem lowerFrom_of_stays (h : ∀ c ∈ s, Stays c) : lowerFrom b s = s := by
  induction s generalizing b with
  | nil => rfl
  | cons c rest ih =>
    obtain ⟨hsigma, hc⟩ := h c List.mem_cons_self
    rw [lowerFrom]
    simp only [hsigma, hc, if_false, ih fun d hd => h d (List.mem_cons_of_mem c hd),
      List.singleton_append]

/-- A text in lower case stays as it is. -/
theorem lower_lower (s : String) : lower (lower s) = lower s := by
  have hstays : ∀ d ∈ (lower s).toList, Stays d := by
    intro d hd
    rw [lower, String.toList_ofList] at hd
    exact stays_of_mem_lowerFrom hd
  rw [lower, lowerFrom_of_stays hstays, String.ofList_toList]

/-- Whatever is in a text in lower case was there before, or took the place of something. -/
theorem mem_lowerFrom (h : d ∈ lowerFrom b s) : d ∈ s ∨ Lowered d := by
  induction s generalizing b with
  | nil => exact nomatch h
  | cons c rest ih =>
    obtain ⟨cs, b', ⟨-, -, hcs⟩, hlower⟩ := lowerFrom_cons b c rest
    rw [hlower] at h
    rcases List.mem_append.1 h with h | h
    · rcases hcs with rfl | hlowered
      · exact .inl (List.mem_singleton.1 h ▸ List.mem_cons_self)
      · exact .inr (hlowered d h)
    · exact (ih h).imp_left (List.mem_cons_of_mem c)

/-- No text becomes empty. -/
theorem lowerFrom_eq_nil_iff : lowerFrom b s = [] ↔ s = [] := by
  cases s with
  | nil => exact ⟨fun _ => rfl, fun _ => rfl⟩
  | cons c rest =>
    obtain ⟨cs, b', ⟨hne, -⟩, hlower⟩ := lowerFrom_cons b c rest
    simp [hlower, hne]

/-- The first character was the first one before, or took the place of something. -/
theorem head?_lowerFrom (h : (lowerFrom b s).head? = some d) : s.head? = some d ∨ Lowered d := by
  cases s with
  | nil => exact nomatch h
  | cons c rest =>
    obtain ⟨cs, b', ⟨hne, -, hcs⟩, hlower⟩ := lowerFrom_cons b c rest
    rw [hlower, List.head?_append_of_ne_nil _ hne] at h
    rcases hcs with rfl | hlowered
    · exact .inl h
    · exact .inr (hlowered d (List.mem_of_mem_head? h))

/-- So was the last character. -/
private theorem getLast?_lowerFrom (h : (lowerFrom b s).getLast? = some d) :
    s.getLast? = some d ∨ Lowered d := by
  induction s generalizing b with
  | nil => exact nomatch h
  | cons c rest ih =>
    obtain ⟨cs, b', ⟨-, -, hcs⟩, hlower⟩ := lowerFrom_cons b c rest
    rw [hlower] at h
    -- the last character comes of the last one of the text
    by_cases hrest : rest = []
    · subst hrest
      rw [lowerFrom, List.append_nil] at h
      rcases hcs with rfl | hlowered
      · exact .inl h
      · exact .inr (hlowered d (List.mem_of_getLast? h))
    · have hne : lowerFrom b' rest ≠ [] := mt lowerFrom_eq_nil_iff.1 hrest
      rw [List.getLast?_append_of_ne_nil _ hne] at h
      rw [List.getLast?_cons_of_ne_nil hrest]
      exact ih h

/-- Where one character becomes several, all of these are new. -/
theorem mem_tail_lowerFrom (h : d ∈ (lowerFrom b s).tail) : d ∈ s.tail ∨ Lowered d := by
  cases s with
  | nil => exact nomatch h
  | cons c rest =>
    obtain ⟨cs, b', ⟨hne, -, hcs⟩, hlower⟩ := lowerFrom_cons b c rest
    rw [hlower, List.tail_append_of_ne_nil hne] at h
    rcases List.mem_append.1 h with h | h
    · rcases hcs with rfl | hlowered
      · exact nomatch h
      · exact .inr (hlowered d (List.mem_of_mem_tail h))
    · exact mem_lowerFrom h

/-- Lower-casing brings no white space to the ends of a text. -/
theorem strip_lowerFrom (h : strip s = s) : strip (lowerFrom b s) = lowerFrom b s := by
  obtain ⟨hstart, hend⟩ := strip_eq_self_iff.1 h
  refine strip_eq_self_iff.2 ⟨fun d hd => ?_, fun d hd => ?_⟩
  · exact (head?_lowerFrom hd).elim (hstart d) Lowered.plain
  · exact (getLast?_lowerFrom hd).elim (hend d) Lowered.plain

end JavaFragments.Text
