import Mathlib.Control.Monad.Basic
import JavaFragments.Options.Configuration
import JavaFragments.Proofs.Options.FileValue

/-! # What a look-up answers

A value of a file that was read is looked up with a type and a value to fall back on.  What cannot be
read as a value of the type is refused; but where a reference in the value breaks, its failure is the
answer:

* `answers_of_missing`, `answers_of_text`   what is answered if a value is missing or is found
* `answers_iff`                             which values can be looked up -/

namespace JavaFragments.Options

open Ini Number Text

/-- A text, an integer or nothing at all. -/
inductive Simple : Value → Prop
  | str (s : String) : Simple (.str s)
  | int (n : Int) : Simple (.int n)
  | null : Simple .null

/-- What may be answered when a value is looked up. -/
inductive Answers (d : Document) (t : OptionType) (sectionName key : String) (fallback : Value) :
    Except Failure Value → Prop
  /-- The text that is found, read as a value of the type. -/
  | found {s : String} {v : t.Carrier} : d.get sectionName key = .ok s → readAs t s = .ok v →
      Answers d t sectionName key fallback (.ok (t.toValue v))
  /-- The value to fall back on, as it is, where the section or the option is missing. -/
  | fallback {e : Ini.Error} : d.raw sectionName key = .error e → e.isMissing = true → t ≠ .seed →
      Answers d t sectionName key fallback (.ok fallback)
  /-- The seed that this value stands for. -/
  | fallbackSeed {e : Ini.Error} {v : Value} : d.raw sectionName key = .error e →
      e.isMissing = true → t = .seed → fallbackSeed sectionName key fallback = .ok v →
      Answers d t sectionName key fallback (.ok v)
  /-- A refusal of what cannot be read. -/
  | refused (cause : NotANumeral) :
      Answers d t sectionName key fallback (.error (.rejected (.unreadable key sectionName t cause)))

section

variable {d : Document} {t : OptionType} {sectionName key : String} {fallback : Value}

/-- The failure of a reference is no answer. -/
theorem not_answers_ini (e : Ini.Error) :
    ¬ Answers d t sectionName key fallback (.error (.ini e)) := by
  intro h
  cases h

/-- What cannot be read as a seed is refused. -/
private theorem fallbackSeed_cases (h : Simple fallback) (sectionName key : String) :
    (∃ v, fallbackSeed sectionName key fallback = .ok v) ∨
      ∃ cause, fallbackSeed sectionName key fallback =
        .error (.rejected (.unreadable key sectionName .seed cause)) := by
  cases h with
  | str s =>
    cases hread : readSeed s with
    | ok seed => exact .inl ⟨_, by rw [fallbackSeed, hread]; rfl⟩
    | error cause => exact .inr ⟨cause, by rw [fallbackSeed, hread]; rfl⟩
  | int n => exact .inl ⟨_, rfl⟩
  | null => exact .inl ⟨_, rfl⟩

/-- Where the section or the option is missing, the value to fall back on is the answer. -/
theorem answers_of_missing (h : Simple fallback) {e : Ini.Error}
    (hraw : d.raw sectionName key = .error e) :
    Answers d t sectionName key fallback (valueOr d t sectionName key fallback) := by
  have hmissing := Document.isMissing_raw hraw
  have hvalue : valueOr d t sectionName key fallback =
      if t = .seed then fallbackSeed sectionName key fallback else .ok fallback := by
    rw [valueOr, lookupAs, lookup_of_error (Document.get_of_raw_error hraw), hmissing]
    rfl
  rw [hvalue]
  -- a seed may be given as a text
  split
  · rename_i hseed
    subst hseed
    rcases fallbackSeed_cases h sectionName key with ⟨v, hv⟩ | ⟨cause, hv⟩
    · rw [hv]
      exact .fallbackSeed hraw hmissing rfl hv
    · rw [hv]
      exact .refused cause
  · rename_i hseed
    exact .fallback hraw hmissing hseed

/-- A text that is found is read. -/
private theorem valueOr_of_text {s : String} (hget : d.get sectionName key = .ok s) :
    valueOr d t sectionName key fallback =
      t.toValue <$> orUnreadable sectionName key t (readAs t s) := by
  rw [valueOr, lookupAs, lookup, hget]
  cases hread : readAs t s <;>
    simp [hread, orUnreadable, bind, Except.bind, Functor.map, Except.map]

/-- It is the answer, or is refused. -/
theorem answers_of_text {s : String} (hget : d.get sectionName key = .ok s) :
    Answers d t sectionName key fallback (valueOr d t sectionName key fallback) := by
  rw [valueOr_of_text hget]
  cases hread : readAs t s with
  | ok v => exact .found hget hread
  | error cause => exact .refused cause

/-- A failure to find the text is the answer. -/
private theorem valueOr_of_error {e : Ini.Error} (hget : d.get sectionName key = .error e)
    (he : e.isMissing = false) : valueOr d t sectionName key fallback = .error (.ini e) := by
  rw [valueOr, lookupAs, lookup_of_error hget, he]
  rfl

end

/-! ## Files -/

/-- What a file that was read is the document of. -/
theorem readFile_eq_ok {path : String} {content : FileContent} {d : Document}
    (h : readFile path content = .ok d) :
    ∃ lines, Document.empty.readLines path lines = (.ok (), d) := by
  have hfinish : ∀ r, readFile.finish r = .ok d → r = (.ok (), d) := by
    rintro ⟨e | ⟨⟩, d'⟩ hr
    · cases hr
    · rw [Except.ok.inj hr]
  -- bytes are read where they are a text
  cases content with
  | text s => exact ⟨_, hfinish _ h⟩
  | bytes bs =>
    unfold readFile at h
    simp only at h
    split at h
    · exact ⟨_, hfinish _ h⟩
    · split at h <;> cases h

/-- The document of a text that can be read. -/
private theorem readFile_text {path s : String} {d : Document}
    (h : Document.empty.readLines path (splitLines (normalizeNewlines s.toList)) = (.ok (), d)) :
    readFile path (.text s) = .ok d := by
  rw [readFile, h]
  rfl

/-- A look-up in a file that was read answers with what is found, falls back or refuses, if and only
    if there is no value whose references cannot be followed.  If there is one, the failure of a
    reference is the answer. -/
theorem answers_iff {path : String} {content : FileContent} {d : Document}
    (hread : readFile path content = .ok d) (t : OptionType) (sectionName key : String)
    {fallback : Value} (hfallback : Simple fallback) :
    (Answers d t sectionName key fallback (valueOr d t sectionName key fallback) ↔
        ∀ v, d.raw sectionName key = .ok v → Followable (d.find? sectionName) maxDepth v) ∧
      ∀ v, d.raw sectionName key = .ok v → ¬ Followable (d.find? sectionName) maxDepth v →
        ∃ e, e.BreaksReference ∧ valueOr d t sectionName key fallback = .error (.ini e) := by
  obtain ⟨lines, hlines⟩ := readFile_eq_ok hread
  have htexts := Document.ofTexts_readLines hlines
  -- a missing value is answered by the one to fall back on
  cases hraw : d.raw sectionName key with
  | error e =>
    simp only [reduceCtorEq, false_imp_iff, implies_true, and_true, iff_true]
    exact answers_of_missing hfallback hraw
  | ok v =>
    simp only [Except.ok.injEq, forall_eq']
    -- a value that can be followed has a text, and else a reference breaks
    rcases Document.get_of_raw htexts hraw with ⟨hfollow, s, hget⟩ | ⟨hbroken, e, he, hget⟩
    · exact ⟨iff_of_true (answers_of_text hget) hfollow, fun hnot => absurd hfollow hnot⟩
    · have hvalue : valueOr d t sectionName key fallback = .error (.ini e) :=
        valueOr_of_error hget he.isMissing
      refine ⟨iff_of_false ?_ hbroken, fun _ => ⟨e, he, hvalue⟩⟩
      rw [hvalue]
      exact not_answers_ini e

/-- A file with a default, a reference to it, and a reference without an end. -/
def referringFile : String := "[DEFAULT]\nbase = 1\n[x]\nk = 0x%(base)s0\nbad = %(k\n"

/-- The document of a text. -/
def documentOfText (s : String) : Document :=
  (Document.empty.readLines "options" (splitLines (normalizeNewlines s.toList))).2

/-- One value is found through a reference, another one ends in a broken one. -/
theorem answers_iff_referringFile :
    readFile "options" (.text referringFile) = .ok (documentOfText referringFile) ∧
      valueOr (documentOfText referringFile) .seed "x" "k" .null = .ok (.int 16) ∧
      (∀ v, (documentOfText referringFile).raw "x" "k" = .ok v →
        Followable ((documentOfText referringFile).find? "x") maxDepth v) ∧
      ∃ e, e.BreaksReference ∧
        valueOr (documentOfText referringFile) .int "x" "bad" (.int 1) = .error (.ini e) := by
  have hread : readFile "options" (.text referringFile) = .ok (documentOfText referringFile) :=
    readFile_text (Prod.ext (by decide +kernel) rfl)
  have hget : (documentOfText referringFile).get "x" "k" = .ok "0x10" := by decide +kernel
  have hseed : readSeed (stripString "0x10") = .ok (some 16) := by decide +kernel
  refine ⟨hread, by rw [valueOr_of_text hget, readAs, hseed]; rfl, ?_, ?_⟩
  · exact (answers_iff hread .seed "x" "k" .null).1.1 (answers_of_text hget)
  · have hraw : (documentOfText referringFile).raw "x" "bad" = .ok (.text "%(k") := by decide +kernel
    have hparts : .openReference "%(k".toList ∈ parts "%(k".toList := by decide +kernel
    refine (answers_iff hread .int "x" "bad" (.int 1)).2 _ hraw fun hfollow => ?_
    obtain ⟨s, hs, hholds⟩ := hfollow.sound 0 (by decide) _ (.nil _)
    cases hs
    exact hholds _ hparts

/-- A percent sign without meaning in a value leaves a look-up with a failure of its own. -/
theorem valueOr_strayPercent :
    readFile "options" (.text "[x]\nk = 100%\n") = .ok (documentOfText "[x]\nk = 100%\n") ∧
      valueOr (documentOfText "[x]\nk = 100%\n") .str "x" "k" .null =
        .error (.ini (.strayPercent "%")) := by
  have hget : (documentOfText "[x]\nk = 100%\n").get "x" "k" = .error (.strayPercent "%") := by
    decide +kernel
  exact ⟨readFile_text (Prod.ext (by decide +kernel) rfl), valueOr_of_error hget rfl⟩

end JavaFragments.Options
