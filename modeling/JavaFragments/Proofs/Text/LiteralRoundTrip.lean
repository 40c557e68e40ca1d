import JavaFragments.Fragment.Statement
import JavaFragments.Proofs.Text.SourceText

/-! # Escaped text read back

A text that is escaped between two quotes is read as one string literal, whose value is the
text.  Each code point is escaped by characters that are read without regard to what stands
around them: `keptUnits` is what the first phase makes of them, and the second phase makes the
code units of the code point of that.

* `translate_escape`     the first phase on escaped text
* `scanBody_keptUnits`   the second phase on what the first one leaves
* `readString_escape`    both phases on a literal, also as part of a statement that throws -/

namespace JavaFragments.Source

open Text Fragment

/-- What the first phase makes of an escaped code point: where the escape is one of the
    second phase it is kept, else it is the code point. -/
def keptUnits (p : CodePoint) : List CodeUnit :=
  if isDelimiter p.val then [backslash, UInt16.ofNat p.val]
  else
    match namedEscape? p.val with
    | some c => [backslash, unit c]
    | none => p.units

/-! ## Unicode escapes -/

/-- An upper case digit has its value. -/
private theorem hexValue?_upperHexDigit :
    ∀ d < 16, hexValue? (unit (upperHexDigit d)) = some d := by decide

/-- A digit is one code unit. -/
private theorem upperHexDigit_le : ∀ d < 16, (upperHexDigit d).toNat ≤ 0xFFFF := by decide

/-- No digit is a `u`. -/
private theorem unit_upperHexDigit_ne : ∀ d < 16, unit (upperHexDigit d) ≠ unit 'u' := by decide

/-- Four digits of a number are read as the number. -/
private theorem escaped?_fixedHex {n : Nat} (h : n < 0x10000) (s : List CodeUnit) :
    escaped? (unitsOf (fixedHex upperHexDigit 4 n) ++ s) = some (UInt16.ofNat n, s) := by
  have ha : n / 16 / 16 / 16 % 16 < 16 := Nat.mod_lt _ (by decide)
  have hb : n / 16 / 16 % 16 < 16 := Nat.mod_lt _ (by decide)
  have hc : n / 16 % 16 < 16 := Nat.mod_lt _ (by decide)
  have hd : n % 16 < 16 := Nat.mod_lt _ (by decide)
  have hsum : ((n / 16 / 16 / 16 % 16 * 16 + n / 16 / 16 % 16) * 16 + n / 16 % 16) * 16 +
      n % 16 = n := by
    omega
  simp only [fixedHex, List.nil_append, List.cons_append]
  rw [unitsOf_cons (upperHexDigit_le _ ha), unitsOf_cons (upperHexDigit_le _ hb),
    unitsOf_cons (upperHexDigit_le _ hc), unitsOf_cons (upperHexDigit_le _ hd), unitsOf_nil]
  -- no `u` stands among the digits
  have hu := unit_upperHexDigit_ne _ ha
  simp only [escaped?, List.cons_append, List.nil_append, List.dropWhile_cons, hu, decide_false,
    Bool.false_eq_true, if_false, fourDigits?, hexValue?_upperHexDigit _ ha,
    hexValue?_upperHexDigit _ hb, hexValue?_upperHexDigit _ hc, hexValue?_upperHexDigit _ hd, hsum]

/-- A Unicode escape is read as its code unit. -/
private theorem translate_unicodeEscape {n : Nat} (h : n < 0x10000) (s : List CodeUnit) :
    translate (unitsOf (unicodeEscape n) ++ s) = (translate s).map (UInt16.ofNat n :: ·) := by
  have hstart : unitsOf (unicodeEscape n) ++ s =
      backslash :: unit 'u' :: (unitsOf (fixedHex upperHexDigit 4 n) ++ s) := by
    rw [unicodeEscape, unitsOf_cons (by decide), unitsOf_cons (by decide)]
    rfl
  have hread : escaped? (unit 'u' :: (unitsOf (fixedHex upperHexDigit 4 n) ++ s)) =
      some (UInt16.ofNat n, s) := by
    rw [← escaped?_fixedHex h s]
    simp [escaped?]
  rw [hstart, translate, translateFrom, if_pos ⟨rfl, rfl, rfl⟩]
  -- the four digits are there, so the escape is read
  split
  · rename_i u rest heq
    rw [hread] at heq
    simp only [Option.some.injEq, Prod.mk.injEq] at heq
    rw [heq.1, heq.2, translate]
  · rename_i heq
    rw [hread] at heq
    cases heq

/-! ## The escape of one code point -/

/-- Different numbers of 16 bits are different code units. -/
theorem ofNat_ne {m n : Nat} (hm : m < 0x10000) (hn : n < 0x10000) (h : m ≠ n) :
    UInt16.ofNat m ≠ UInt16.ofNat n := by
  intro e
  have := congrArg UInt16.toNat e
  rw [UInt16.toNat_ofNat_of_lt' hm, UInt16.toNat_ofNat_of_lt' hn] at this
  exact h this

/-- A delimiter is one of the two quotes or a backslash. -/
theorem isDelimiter_iff (n : Nat) : isDelimiter n = true ↔ n = 0x27 ∨ n = 0x22 ∨ n = 0x5C := by
  simp [isDelimiter, or_assoc]

/-- The control characters with an escape of their own. -/
theorem eq_of_namedEscape? {n : Nat} {c : Char} (h : namedEscape? n = some c) :
    (n = 0x08 ∧ c = 'b') ∨ (n = 0x09 ∧ c = 't') ∨ (n = 0x0A ∧ c = 'n') ∨
      (n = 0x0C ∧ c = 'f') ∨ (n = 0x0D ∧ c = 'r') := by
  unfold namedEscape? at h
  split at h <;> simp only [Option.some.injEq, reduceCtorEq] at h <;> subst h <;> decide

/-- A printable code point is a character. -/
private theorem unitsOf_printable {n : Nat} (h : n ≤ 126) (s : List Char) :
    unitsOf (Char.ofNat n :: s) = UInt16.ofNat n :: unitsOf s := by
  have hvalid : n.isValidChar := Or.inl (by omega)
  have hn : (Char.ofNat n).toNat = n := by
    rw [Char.ofNat, dif_pos hvalid]
    rfl
  rw [unitsOf_cons (by omega), unit, hn]

/-- The first phase on the escape of one code point. -/
private theorem translate_escapeCodePoint (p : CodePoint) (s : List CodeUnit) :
    translate (unitsOf (escapeCodePoint p) ++ s) = (translate s).map (keptUnits p ++ ·) := by
  unfold escapeCodePoint keptUnits
  -- quote or backslash, named control character, printable, or anything else
  by_cases hdelim : isDelimiter p.val = true
  · have hn := (isDelimiter_iff p.val).1 hdelim
    simp only [hdelim, if_true]
    rw [unitsOf_cons (by decide), unitsOf_printable (by omega)]
    have hu : UInt16.ofNat p.val ≠ unit 'u' :=
      ofNat_ne (n := 0x75) (by omega) (by decide) (by omega)
    exact translate_backslash hu s
  · simp only [hdelim, Bool.false_eq_true, if_false]
    cases hnamed : namedEscape? p.val with
    | some c =>
      have hc : c.toNat ≤ 0xFFFF ∧ unit c ≠ unit 'u' := by
        rcases eq_of_namedEscape? hnamed with ⟨_, rfl⟩ | ⟨_, rfl⟩ | ⟨_, rfl⟩ | ⟨_, rfl⟩ | ⟨_, rfl⟩ <;>
          decide
      simp only
      rw [unitsOf_cons (by decide), unitsOf_cons hc.1]
      exact translate_backslash hc.2 s
    | none =>
      simp only
      have hne : p.val ≠ 0x5C := fun e => hdelim ((isDelimiter_iff p.val).2 (by omega))
      by_cases hprint : 32 ≤ p.val ∧ p.val ≤ 126
      · rw [if_pos hprint, unitsOf_printable hprint.2, CodePoint.units, if_pos (by omega)]
        exact translateFrom_cons (ofNat_ne (by omega) (by decide) hne) false s
      · rw [if_neg hprint]
        by_cases hsmall : p.val ≤ 0xFFFF
        · rw [if_pos hsmall, CodePoint.units, if_pos hsmall]
          exact translate_unicodeEscape (by omega) s
        · -- two escapes in a row, each read by itself
          rw [if_neg hsmall, CodePoint.units, if_neg hsmall, unitsOf_append, List.append_assoc,
            translate_unicodeEscape (highSurrogate_lt p), translate_unicodeEscape (lowSurrogate_lt _)]
          simp [Function.comp_def]

/-- A code unit that stands for itself in a string literal. -/
structure Plain (u : CodeUnit) : Prop where
  ne_quote : u ≠ unit '"'
  ne_lineFeed : u ≠ unit '\n'
  ne_carriageReturn : u ≠ unit '\r'
  ne_backslash : u ≠ backslash

/-- A code unit that is none of the four. -/
private theorem plain_ofNat {n : Nat} (h : n < 0x10000) (hq : n ≠ 0x22) (hl : n ≠ 0x0A)
    (hc : n ≠ 0x0D) (hb : n ≠ 0x5C) : Plain (UInt16.ofNat n) where
  ne_quote := ofNat_ne h (by decide) hq
  ne_lineFeed := ofNat_ne h (by decide) hl
  ne_carriageReturn := ofNat_ne h (by decide) hc
  ne_backslash := ofNat_ne h (by decide) hb

/-- It is taken as it is. -/
private theorem scanBody_plain {u : CodeUnit} (h : Plain u) (s : List CodeUnit) :
    scanBody (u :: s) = (scanBody s).map fun r => (u :: r.1, r.2) := by
  have hline : ¬ (u = unit '\n' ∨ u = unit '\r') :=
    fun e => e.elim h.ne_lineFeed h.ne_carriageReturn
  rw [scanBody.eq_def]
  simp only [h.ne_quote, hline, h.ne_backslash, if_false]

/-- An escape of one letter is taken for what it stands for. -/
private theorem scanBody_escape {e u : CodeUnit} (h : simpleEscape? e = some u)
    (s : List CodeUnit) :
    scanBody (backslash :: e :: s) = (scanBody s).map fun r => (u :: r.1, r.2) := by
  have hquote : backslash ≠ unit '"' := by decide
  have hline : ¬ (backslash = unit '\n' ∨ backslash = unit '\r') := by decide
  rw [scanBody.eq_def]
  simp only [hquote, hline, h, if_false, if_true]

/-- The second phase on what the first one makes of an escaped code point. -/
theorem scanBody_keptUnits (p : CodePoint) (s : List CodeUnit) :
    scanBody (keptUnits p ++ s) = (scanBody s).map fun r => (p.units ++ r.1, r.2) := by
  unfold keptUnits
  by_cases hdelim : isDelimiter p.val = true
  · have hn := (isDelimiter_iff p.val).1 hdelim
    have hescape : simpleEscape? (UInt16.ofNat p.val) = some (UInt16.ofNat p.val) := by
      rcases hn with h | h | h <;> rw [h] <;> decide
    rw [if_pos hdelim, CodePoint.units, if_pos (by omega)]
    exact scanBody_escape hescape s
  · rw [if_neg hdelim]
    have hne : ¬ (p.val = 0x27 ∨ p.val = 0x22 ∨ p.val = 0x5C) :=
      fun e => hdelim ((isDelimiter_iff p.val).2 e)
    cases hnamed : namedEscape? p.val with
    | some c =>
      -- the letter of the escape stands for the control character
      have hescape : p.val ≤ 0xFFFF ∧ simpleEscape? (unit c) = some (UInt16.ofNat p.val) := by
        rcases eq_of_namedEscape? hnamed with ⟨h, rfl⟩ | ⟨h, rfl⟩ | ⟨h, rfl⟩ | ⟨h, rfl⟩ | ⟨h, rfl⟩ <;>
          rw [h] <;> decide
      rw [CodePoint.units, if_pos hescape.1]
      exact scanBody_escape hescape.2 s
    | none =>
      -- a line end would have been escaped by its name
      have hline : p.val ≠ 0x0A ∧ p.val ≠ 0x0D := by
        constructor <;> intro h <;> rw [h] at hnamed <;> exact nomatch hnamed
      by_cases hsmall : p.val ≤ 0xFFFF
      · have hplain := plain_ofNat (n := p.val) (by omega) (by omega) hline.1 hline.2 (by omega)
        simp only [CodePoint.units, hsmall, if_true]
        exact scanBody_plain hplain s
      · -- no surrogate is a quote, a backslash or a line end
        have hhigh : Plain (UInt16.ofNat (highSurrogate p.val)) := by
          apply plain_ofNat (highSurrogate_lt p) <;> simp only [highSurrogate] <;> omega
        have hlow : Plain (UInt16.ofNat (lowSurrogate p.val)) := by
          apply plain_ofNat (lowSurrogate_lt _) <;> simp only [lowSurrogate] <;> omega
        simp only [CodePoint.units, hsmall, if_false, List.cons_append, List.nil_append]
        rw [scanBody_plain hhigh, scanBody_plain hlow]
        simp [Function.comp_def]

/-! ## Escaped texts -/

/-- The first phase on escaped text. -/
theorem translate_escape (text : CodePoints) (s : List CodeUnit) :
    translate (unitsOf (escape text) ++ s) = (translate s).map (text.flatMap keptUnits ++ ·) := by
  -- on the text; what follows is arbitrary, so the rest is what follows the first code point
  induction text with
  | nil => simp
  | cons p text ih =>
    rw [escape_cons, unitsOf_append, List.append_assoc, translate_escapeCodePoint, ih]
    simp [Function.comp_def]

/-- The second phase on what the first one makes of escaped text. -/
private theorem scanBody_escaped (text : CodePoints) (s : List CodeUnit) :
    scanBody (text.flatMap keptUnits ++ s) = (scanBody s).map fun r => (utf16 text ++ r.1, r.2) := by
  induction text with
  | nil => simp
  | cons p text ih =>
    rw [List.flatMap_cons, List.append_assoc, scanBody_keptUnits, ih]
    simp [Function.comp_def]

/-- The first phase on a literal with escaped text leaves what the second phase reads as the
    text. -/
theorem translate_literal (text : CodePoints) {rest : List CodeUnit} (h : backslash ∉ rest) :
    ∃ literal, translate (unitsOf ('"' :: escape text ++ ['"']) ++ rest) = some literal ∧
      scanString literal = some (utf16 text, rest) := by
  have hquote : unit '"' ≠ backslash := by decide
  have hrest : translate (unit '"' :: rest) = some (unit '"' :: rest) := by
    rw [translate, translateFrom_cons hquote, translate_of_notMem h]
    rfl
  have hend : scanBody (unit '"' :: rest) = some ([], rest) := by
    rw [scanBody.eq_def]
    simp
  refine ⟨unit '"' :: (text.flatMap keptUnits ++ unit '"' :: rest), ?_, ?_⟩
  · rw [List.cons_append, unitsOf_cons (by decide), List.cons_append, translate,
      translateFrom_cons hquote, unitsOf_append, unitsOf_cons (by decide), unitsOf_nil,
      List.append_assoc, List.singleton_append, translate_escape, hrest]
    rfl
  · simp [scanString, scanBody_escaped, hend]

/-! ## Statements that throw -/

/-- The text of a statement that throws, by the texts of its exception and its message. -/
private theorem throwStatement_eq {s : Settings} {exception? message? : Option String}
    {exception message : String}
    (hexception : exception?.elim (s.get .exceptionClass) .str = .str exception)
    (hmessage : message?.elim (s.get .throwMessage) .str = .str message) :
    throwStatement s exception? message? =
      .ok ("throw new " ++ exception ++ "(\"" ++ escapeString message ++ "\")") := by
  -- what is given is written as it is, and what is not given is looked up
  cases exception? with
  | some e =>
    obtain rfl : e = exception := Value.str.inj hexception
    cases message? with
    | some m =>
      obtain rfl : m = message := Value.str.inj hmessage
      rfl
    | none =>
      simp only [Option.elim_none] at hmessage
      simp only [throwStatement, hmessage, escapeMessage, bind, Except.bind]
      rfl
  | none =>
    simp only [Option.elim_none] at hexception
    cases message? with
    | some m =>
      obtain rfl : m = message := Value.str.inj hmessage
      simp only [throwStatement, hexception, written_str, bind, Except.bind]
      rfl
    | none =>
      simp only [Option.elim_none] at hmessage
      simp only [throwStatement, hexception, hmessage, written_str, escapeMessage, bind, Except.bind]
      rfl

/-- An escaped text between quotes is read as one literal, whose value is the text, whatever
    follows without a backslash.  So a statement that throws has its message in one literal:
    behind the head of the statement, where that can be read, stands a literal with the
    message as its value, then the closing bracket. -/
theorem readString_escape (text : CodePoints) (rest : List CodeUnit) (h : backslash ∉ rest) :
    readString (unitsOf ('"' :: escape text ++ ['"']) ++ rest) = some (utf16 text, rest) ∧
    ∀ (s : Settings) (exception? message? : Option String) (exception message : String),
      exception?.elim (s.get .exceptionClass) .str = .str exception →
      message?.elim (s.get .throwMessage) .str = .str message →
      codePoints message = text →
      ∃ statement, throwStatement s exception? message? = .ok statement ∧
        ∀ head, translate (unitsOf ("throw new " ++ exception ++ "(").toList) = some head →
          ∃ literal, translate (unitsOf statement.toList ++ rest) = some (head ++ literal) ∧
            scanString literal = some (utf16 text, unit ')' :: rest) := by
  constructor
  · obtain ⟨literal, htranslate, hscan⟩ := translate_literal text h
    rw [readString, htranslate, Option.bind_some, hscan]
  · intro s exception? message? exception message hexception hmessage htext
    refine ⟨_, throwStatement_eq hexception hmessage, fun head hhead => ?_⟩
    -- the closing bracket belongs to what follows the literal
    have hclose : backslash ∉ unit ')' :: rest := by
      simp only [List.mem_cons, not_or]
      exact ⟨by decide, h⟩
    obtain ⟨literal, htranslate, hscan⟩ := translate_literal text hclose
    refine ⟨literal, ?_, hscan⟩
    have hsplit : unitsOf
        ("throw new " ++ exception ++ "(\"" ++ escapeString message ++ "\")").toList ++ rest =
        unitsOf ("throw new " ++ exception ++ "(").toList ++
          (unitsOf ('"' :: escape text ++ ['"']) ++ unit ')' :: rest) := by
      have hchars : ("throw new " ++ exception ++ "(\"" ++ escapeString message ++ "\")").toList =
          ("throw new " ++ exception ++ "(").toList ++ ('"' :: escape text ++ ['"', ')']) := by
        simp [escapeString, htext]
      have hbracket : unitsOf ['"', ')'] = unitsOf ['"'] ++ [unit ')'] := by decide
      simp only [hchars, unitsOf_append, hbracket, List.append_assoc, List.singleton_append]
    -- the head ends in a bracket, so the literal is read without regard to it
    have hlast : (unitsOf ("throw new " ++ exception ++ "(").toList).getLast? ≠ some backslash := by
      have hbracket : unitsOf "(".toList = [unit '('] := by decide
      rw [String.toList_append, unitsOf_append, hbracket, List.getLast?_concat]
      decide
    rw [hsplit, translate_append hhead hlast, htranslate]
    rfl

/-- A message that spells a quote as a Unicode escape stays in its literal. -/
theorem readString_escape_spelledQuote :
    let message := "\\u0022); // 😀\n"
    let rest := unitsOf [';']
    backslash ∉ rest ∧
    readString (unitsOf ('"' :: escape (codePoints message) ++ ['"']) ++ rest) =
      some (utf16 (codePoints message), rest) ∧
    ∃ statement, throwStatement (.ofOptions .defaults) none (some message) = .ok statement ∧
      ∃ literal,
        translate (unitsOf statement.toList ++ rest) =
          some (unitsOf "throw new RuntimeException(".toList ++ literal) ∧
        scanString literal = some (utf16 (codePoints message), unit ')' :: rest) := by
  intro message rest
  have hrest : backslash ∉ rest := by decide
  have hhead : backslash ∉ unitsOf "throw new RuntimeException(".toList := by decide
  obtain ⟨hread, hthrow⟩ := readString_escape (codePoints message) rest hrest
  obtain ⟨statement, hstatement, hliteral⟩ :=
    hthrow (.ofOptions .defaults) none (some message) "RuntimeException" message rfl rfl rfl
  exact ⟨hrest, hread, statement, hstatement, hliteral _ (translate_of_notMem hhead)⟩

end JavaFragments.Source
