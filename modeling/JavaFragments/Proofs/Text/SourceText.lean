import JavaFragments.Proofs.Text.Utf16

/-! # Reading Java source text

The first two phases of lexical translation.  `translate` replaces Unicode escapes: a
backslash begins one if it is followed by `u` and an even number of backslashes stands
right before it, and then four hexadecimal digits must follow.  `scanString` reads a string
literal from its opening quote to the quote that closes it; a line end inside is refused.

* `translate_of_notMem`      text without backslashes stays as it is
* `translate_append`         what is read behind a text that can be read by itself
* `translate_backslash`      a backslash that begins no Unicode escape -/

namespace JavaFragments.Source

open Text

/-- The backslash. -/
def backslash : CodeUnit := unit '\\'

/-- The value of a hexadecimal digit. -/
def hexValue? (u : CodeUnit) : Option Nat :=
  let n := u.toNat
  if 48 ≤ n ∧ n ≤ 57 then some (n - 48)
  else if 65 ≤ n ∧ n ≤ 70 then some (n - 55)
  else if 97 ≤ n ∧ n ≤ 102 then some (n - 87)
  else none

/-- The code unit given by four hexadecimal digits, and what follows them. -/
def fourDigits? : List CodeUnit → Option (CodeUnit × List CodeUnit)
  | a :: b :: c :: d :: rest =>
    match hexValue? a, hexValue? b, hexValue? c, hexValue? d with
    | some a, some b, some c, some d =>
      some (UInt16.ofNat (((a * 16 + b) * 16 + c) * 16 + d), rest)
    | _, _, _, _ => none
  | _ => none

/-- The code unit of a Unicode escape whose backslash is already read, and what follows it.
    The letter `u` may be repeated. -/
def escaped? (s : List CodeUnit) : Option (CodeUnit × List CodeUnit) :=
  fourDigits? (s.dropWhile (· = unit 'u'))

/-- What follows the digits of an escape is shorter. -/
private theorem length_of_fourDigits? {s rest : List CodeUnit} {u : CodeUnit}
    (h : fourDigits? s = some (u, rest)) : rest.length < s.length := by
  unfold fourDigits? at h
  split at h
  · split at h
    · simp only [Option.some.injEq, Prod.mk.injEq] at h
      simp only [← h.2, List.length_cons]
      omega
    · exact nomatch h
  · exact nomatch h

/-- So is what follows an escape, however often its letter is repeated. -/
private theorem length_of_escaped? {s rest : List CodeUnit} {u : CodeUnit}
    (h : escaped? s = some (u, rest)) : rest.length < s.length :=
  Nat.lt_of_lt_of_le (length_of_fourDigits? h) (List.dropWhile_sublist _).length_le

/-- Replaces Unicode escapes; `odd` says whether an odd number of backslashes stands right
    before the text.  An escape without its digits is refused. -/
def translateFrom (odd : Bool) : List CodeUnit → Option (List CodeUnit)
  | [] => some []
  | c :: rest =>
    if c = backslash ∧ odd = false ∧ rest.head? = some (unit 'u') then
      match _h : escaped? rest with
      | some (u, rest) => (translateFrom false rest).map (u :: ·)
      | none => none
    else (translateFrom (c = backslash && !odd) rest).map (c :: ·)
termination_by s => s.length
decreasing_by
  · have := length_of_escaped? ‹_›
    simp only [List.length_cons]
    omega
  · simp only [List.length_cons]; omega

/-- The first phase: source text with its Unicode escapes replaced. -/
def translate (s : List CodeUnit) : Option (List CodeUnit) := translateFrom false s

/-- What an escape inside a string literal stands for, by the character behind its backslash. -/
def simpleEscape? (u : CodeUnit) : Option CodeUnit :=
  if u = unit 'b' then some 0x08
  else if u = unit 't' then some 0x09
  else if u = unit 'n' then some 0x0A
  else if u = unit 'f' then some 0x0C
  else if u = unit 'r' then some 0x0D
  else if u = unit '\'' ∨ u = unit '"' ∨ u = backslash then some u
  else none

/-- The value of a string literal whose opening quote is already read, and what follows the
    quote that closes it. -/
def scanBody : List CodeUnit → Option (List CodeUnit × List CodeUnit)
  | [] => none
  | c :: rest =>
    if c = unit '"' then some ([], rest)
    else if c = unit '\n' ∨ c = unit '\r' then none
    else if c = backslash then
      match rest with
      | [] => none
      | e :: rest =>
        match simpleEscape? e with
        | some u => (scanBody rest).map fun r => (u :: r.1, r.2)
        | none => none
    else (scanBody rest).map fun r => (c :: r.1, r.2)

/-- The second phase, where it reads a string literal: its value and what follows it. -/
def scanString : List CodeUnit → Option (List CodeUnit × List CodeUnit)
  | c :: rest => if c = unit '"' then scanBody rest else none
  | [] => none

/-- Reads source text that starts with a string literal: the value of the literal and the
    text behind it. -/
def readString (s : List CodeUnit) : Option (List CodeUnit × List CodeUnit) :=
  (translate s).bind scanString

/-! ## The first phase on parts of a text -/

/-- Nothing is read from the empty text. -/
private theorem translateFrom_nil (odd : Bool) : translateFrom odd [] = some [] := by
  rw [translateFrom]

/-- Any other character than a backslash is kept, and what follows it is read afresh. -/
theorem translateFrom_cons {c : CodeUnit} (h : c ≠ backslash) (odd : Bool) (s : List CodeUnit) :
    translateFrom odd (c :: s) = (translate s).map (c :: ·) := by
  rw [translateFrom, if_neg fun e => h e.1]
  simp [translate, h]

/-- A backslash and the character behind it are kept, unless that is the `u` of an escape. -/
theorem translate_backslash {c : CodeUnit} (h : c ≠ unit 'u') (s : List CodeUnit) :
    translate (backslash :: c :: s) = (translate s).map (backslash :: c :: ·) := by
  have hhead : (c :: s).head? ≠ some (unit 'u') := fun e => h (Option.some.inj e)
  have hsecond : translateFrom true (c :: s) = (translate s).map (c :: ·) := by
    rw [translateFrom, if_neg fun e => Bool.noConfusion e.2.1]
    simp [translate]
  -- behind the first backslash the number of backslashes is odd
  rw [translate, translateFrom, if_neg fun e => hhead e.2.2]
  simp [hsecond, Function.comp_def]

/-- Text without backslashes stays as it is. -/
theorem translate_of_notMem {s : List CodeUnit} (h : backslash ∉ s) : translate s = some s := by
  -- on the text, of which each character is kept
  induction s with
  | nil => exact translateFrom_nil false
  | cons c s ih =>
    have hc : c ≠ backslash := fun e => h (e ▸ List.mem_cons_self)
    have hs : backslash ∉ s := fun m => h (List.mem_cons_of_mem c m)
    rw [translate, translateFrom_cons hc, ih hs]
    rfl

/-! ## The first phase on a text in two parts -/

/-- The digits of an escape are found also if more text follows. -/
private theorem fourDigits?_append {s rest : List CodeUnit} {u : CodeUnit}
    (h : fourDigits? s = some (u, rest)) :
    (∃ digits, s = digits ++ rest) ∧ ∀ t, fourDigits? (s ++ t) = some (u, rest ++ t) := by
  unfold fourDigits? at h
  split at h
  · rename_i a b c d tail
    -- four characters, each of them a digit
    split at h
    · rename_i ha hb hc hd
      simp only [Option.some.injEq, Prod.mk.injEq] at h
      obtain ⟨rfl, rfl⟩ := h
      refine ⟨⟨[a, b, c, d], rfl⟩, fun t => ?_⟩
      simp [fourDigits?, ha, hb, hc, hd]
    · exact nomatch h
  · exact nomatch h

/-- An escape is found also if more text follows. -/
private theorem escaped?_append {s rest : List CodeUnit} {u : CodeUnit}
    (h : escaped? s = some (u, rest)) :
    (∃ digits, s = digits ++ rest) ∧ ∀ t, escaped? (s ++ t) = some (u, rest ++ t) := by
  obtain ⟨⟨digits, hdigits⟩, hmore⟩ := fourDigits?_append h
  constructor
  · refine ⟨s.takeWhile (· = unit 'u') ++ digits, ?_⟩
    rw [List.append_assoc, ← hdigits, List.takeWhile_append_dropWhile]
  · intro t
    -- the repeated letter ends within the first part
    have hne : s.dropWhile (· = unit 'u') ≠ [] := by
      intro e
      rw [escaped?, e] at h
      exact nomatch h
    rw [escaped?, List.dropWhile_append, if_neg (by simpa using hne)]
    exact hmore t

/-- What follows a text that can be read by itself is read afresh, if no backslash stands at
    the end of the text. -/
theorem translateFrom_append {odd : Bool} {s read : List CodeUnit}
    (h : translateFrom odd s = some read) (hnil : s = [] → odd = false)
    (hlast : s.getLast? ≠ some backslash) (t : List CodeUnit) :
    translateFrom odd (s ++ t) = (translate t).map (read ++ ·) := by
  fun_induction translateFrom odd s generalizing read with
  | case1 odd =>
    rw [hnil rfl, ← Option.some.inj h]
    simp [translate]
  | case2 odd c rest hc u tail hescaped ih =>
    -- the escape has its digits in the first part
    obtain ⟨read, hread, rfl⟩ := Option.map_eq_some_iff.1 h
    obtain ⟨⟨digits, rfl⟩, hmore⟩ := escaped?_append hescaped
    have htail : tail.getLast? ≠ some backslash := by
      intro e
      apply hlast
      rw [← List.cons_append, List.getLast?_append, e]
      rfl
    have hhead : (digits ++ tail ++ t).head? = some (unit 'u') := by
      rw [List.head?_append, hc.2.2]
      rfl
    rw [List.cons_append, translateFrom, if_pos ⟨hc.1, hc.2.1, hhead⟩]
    split
    · rename_i v rest heq
      rw [hmore] at heq
      simp only [Option.some.injEq, Prod.mk.injEq] at heq
      rw [← heq.1, ← heq.2, ih hread (fun _ => rfl) htail]
      simp [Function.comp_def]
    · rename_i heq
      exact nomatch (hmore t).symm.trans heq
  | case3 odd c rest hc hescaped => exact nomatch h
  | case4 odd c rest hc ih =>
    -- the character is kept; what decides that is in the first part, unless it is the last one
    obtain ⟨read, hread, rfl⟩ := Option.map_eq_some_iff.1 h
    rw [List.cons_append, translateFrom]
    cases rest with
    | nil =>
      have hne : c ≠ backslash := fun e => hlast (by simp [e])
      rw [if_neg fun e => hne e.1, ih hread (by simp [hne]) (by simp)]
      simp [Function.comp_def]
    | cons d rest =>
      have hrest : (d :: rest).getLast? ≠ some backslash := by
        simpa [List.getLast?_cons_cons] using hlast
      rw [if_neg (by simpa using hc), ih hread (fun e => nomatch e) hrest]
      simp [Function.comp_def]

/-- What follows a text that can be read by itself and does not end in a backslash is read
    afresh. -/
theorem translate_append {s read : List CodeUnit} (h : translate s = some read)
    (hlast : s.getLast? ≠ some backslash) (t : List CodeUnit) :
    translate (s ++ t) = (translate t).map (read ++ ·) :=
  translateFrom_append h (fun _ => rfl) hlast t

end JavaFragments.Source
