import JavaFragments.Ini.Document

/-! # References between values

In a stored value `%(name)s` stands for the value of the option `name` of the same section
and `%%` for a percent sign.  `parts` splits a stored text, `expand` replaces the
references, also those in the values they lead to, and `Document.get` looks up a value
with its references replaced. -/

namespace JavaFragments.Ini

/-- A part of a stored text. -/
inductive Part
  /-- Text that stands for itself. -/
  | literal (s : List Char)
  /-- A reference to an option. -/
  | reference (name : List Char)
  /-- A percent sign and bracket that begin no reference, with all behind them. -/
  | openReference (rest : List Char)
  /-- A percent sign without meaning, with all behind it. -/
  | strayPercent (rest : List Char)
deriving DecidableEq, Repr

/-- The name in a reference whose opening is already read, and what follows the reference. -/
def referenceName? (s : List Char) : Option (List Char × List Char) :=
  match s.takeWhile (· ≠ ')'), s.dropWhile (· ≠ ')') with
  | c :: name, ')' :: 's' :: rest => some (c :: name, rest)
  | _, _ => none

/-- What follows a reference is shorter than what it was found in. -/
private theorem length_of_referenceName? {s name rest : List Char}
    (h : referenceName? s = some (name, rest)) : rest.length < s.length := by
  have hs := congrArg List.length (List.takeWhile_append_dropWhile (p := (· ≠ ')')) (l := s))
  unfold referenceName? at h
  split at h
  · rename_i hd
    simp only [Option.some.injEq, Prod.mk.injEq] at h
    rw [List.length_append, hd] at hs
    simp only [List.length_cons] at hs
    rw [h.2] at hs
    omega
  · simp at h

/-- Splits a stored text.  Nothing is split behind a percent sign without meaning. -/
def parts : List Char → List Part
  | [] => []
  | '%' :: '%' :: rest => .literal ['%'] :: parts rest
  | '%' :: '(' :: rest =>
    match _h : referenceName? rest with
    | some (name, rest) => .reference name :: parts rest
    | none => [.openReference ('%' :: '(' :: rest)]
  | '%' :: rest => [.strayPercent ('%' :: rest)]
  | c :: rest =>
    .literal (c :: rest.takeWhile (· ≠ '%')) :: parts (rest.dropWhile (· ≠ '%'))
termination_by s => s.length
decreasing_by
  · simp only [List.length_cons]; omega
  · have := length_of_referenceName? ‹_›
    simp only [List.length_cons]
    omega
  · have := (List.dropWhile_sublist (l := rest) (· ≠ '%')).length_le
    simp only [List.length_cons]
    omega

/-- What is being looked up, for the failures on the way. -/
structure Query where
  sectionName : String
  option : String
  raw : String

/-- Whether a stored value that a reference leads to has to be looked at in turn. -/
def RawValue.hasPercent : RawValue → Bool
  | .text s => s.toList.contains '%'
  | .lines ls => ls.contains "%"

/-- Replaces the references in a value, in those they lead to, and so on at most `depth`
    times.  What comes of it are the pieces of the text. -/
def expand (find? : String → Option RawValue) (q : Query) :
    (depth : Nat) → RawValue → Except Error (List RawValue)
  | 0, _ => .error (.tooDeep q.option q.sectionName q.raw)
  | _ + 1, .lines _ => .error .unfinished
  | depth + 1, .text s =>
    (parts s.toList).flatMapM fun
      | .literal t => .ok [.text (String.ofList t)]
      | .strayPercent rest => .error (.strayPercent (String.ofList rest))
      | .openReference rest => .error (.openReference (String.ofList rest))
      | .reference name =>
        let key := Text.lower (String.ofList name)
        match find? key with
        | none => .error (.unknownReference q.option q.sectionName key q.raw)
        | some v => if v.hasPercent then expand find? q depth v else .ok [v]

/-- Puts pieces behind a text, the first of which has the given number.  Each must be a
    text. -/
def joinPieces : (before : String) → (index : Nat) → List RawValue → Except Error String
  | before, _, [] => .ok before
  | before, index, .text s :: rest => joinPieces (before ++ s) (index + 1) rest
  | _, index, .lines _ :: _ => .error (.unfinishedPiece index)

/-- The value of an option, with its references replaced. -/
def Document.get (d : Document) (sectionName option : String) : Except Error String := do
  let v ← d.raw sectionName option
  -- only a text comes so far that a failure would show it
  let raw := match v with | .text s => s | .lines _ => ""
  joinPieces "" 0 (← expand (d.find? sectionName) ⟨sectionName, Text.lower option, raw⟩ maxDepth v)

/-- The text without pairs of percent signs. -/
def withoutPairs : List Char → List Char
  | [] => []
  | '%' :: '%' :: rest => withoutPairs rest
  | c :: rest => c :: withoutPairs rest

/-- The text without references. -/
def withoutReferences : List Char → List Char
  | [] => []
  | '%' :: '(' :: inner =>
    match _h : referenceName? inner with
    | some (_, rest) => withoutReferences rest
    | none => '%' :: '(' :: withoutReferences inner
  | c :: rest => c :: withoutReferences rest
termination_by s => s.length
decreasing_by
  · have := length_of_referenceName? ‹_›
    simp only [List.length_cons]
    omega
  · simp only [List.length_cons]; omega
  · simp only [List.length_cons]; omega

/-- Stores a value that must be a text.  Every percent sign in it must have a meaning. -/
def Document.set (d : Document) (sectionName option : String) (value? : Option String) :
    Except Error Document :=
  match value? with
  | none => .error .notText
  | some value =>
    let reduced := withoutReferences (withoutPairs value.toList)
    if reduced.contains '%' then
      .error (.strayPercentStored value (reduced.takeWhile (· ≠ '%')).length)
    else
      -- a section without a name stands for the defaults here
      let put (t : Table) := t.put (Text.lower option) (.text value)
      if sectionName = "" ∨ sectionName = defaultsName then
        .ok { d with defaults := put d.defaults }
      else if d.hasSection sectionName then
        .ok { d with sections := d.sections.modify sectionName put }
      else .error (.noSection sectionName)

end JavaFragments.Ini
