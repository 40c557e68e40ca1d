import JavaFragments.Text.LowerCase.Table

/-! # Lower-casing

`lower` maps a whole text to lower case.  Two characters do not follow the simple
mapping: a capital I with dot becomes two characters, and a capital sigma at the end
of a word takes its final form. -/

namespace JavaFragments.Text

/-- The lower case form of one character, whatever stands around it. -/
def lowerChar (c : Char) : List Char :=
  if c.toNat < 128 then [c.toLower]
  else if c = '\u0130' then ['i', '\u0307']
  else
    match lowerRuns.find? fun r =>
        r.first ≤ c.toNat && c.toNat ≤ r.last && (c.toNat - r.first) % r.step == 0 with
    | some r => [Char.ofNat (c.toNat + r.shift).toNat]
    | none => [c]

/-- Whether the first character that counts is a cased one. -/
def startsCased (s : List Char) : Bool :=
  match s.find? fun c => !caseIgnorableRanges.contains c with
  | some c => casedRanges.contains c
  | none => false

/-- Lower case of a text; `afterCased` says whether the last character that counts
    before it is a cased one. -/
def lowerFrom (afterCased : Bool) : List Char → List Char
  | [] => []
  | c :: rest =>
    -- a final sigma has a cased character before it and none behind it
    let here :=
      if c = '\u03A3' then [if afterCased && !startsCased rest then '\u03C2' else '\u03C3']
      else lowerChar c
    let cased := if caseIgnorableRanges.contains c then afterCased else casedRanges.contains c
    here ++ lowerFrom cased rest

/-- Lower case of a text. -/
def lower (s : String) : String := String.ofList (lowerFrom false s.toList)

/-- A character of ASCII does not need the table. -/
theorem lowerChar_of_ascii {c : Char} (h : c.toNat < 128) : lowerChar c = [c.toLower] := by
  simp [lowerChar, h]

/-- On ASCII text lower-casing is the map of single characters. -/
theorem lowerFrom_of_ascii {s : List Char} (h : ∀ c ∈ s, c.toNat < 128) (b : Bool) :
    lowerFrom b s = s.map Char.toLower := by
  induction s generalizing b with
  | nil => rfl
  | cons c rest ih =>
    have hc := h c List.mem_cons_self
    have hne : c ≠ '\u03A3' := by rintro rfl; exact absurd hc (by decide)
    simp [lowerFrom, hne, lowerChar_of_ascii hc, ih fun d hd => h d (List.mem_cons_of_mem c hd)]

end JavaFragments.Text
