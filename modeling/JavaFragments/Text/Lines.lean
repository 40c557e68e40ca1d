/-! # Lines of a text

`splitLines` cuts a text after each line feed, so that the lines put together give the
text again.  `normalizeNewlines` turns the other two line ends into line feeds. -/

namespace JavaFragments.Text

/-- The lines of a text, each with its line feed; only the last may lack one. -/
def splitLines : List Char → List (List Char)
  | [] => []
  | '\n' :: rest => ['\n'] :: splitLines rest
  | c :: rest =>
    match splitLines rest with
    | [] => [[c]]
    | line :: lines => (c :: line) :: lines

/-- Every carriage return, alone or before a line feed, as one line feed. -/
def normalizeNewlines : List Char → List Char
  | [] => []
  | '\r' :: '\n' :: rest => '\n' :: normalizeNewlines rest
  | '\r' :: rest => '\n' :: normalizeNewlines rest
  | c :: rest => c :: normalizeNewlines rest

/-- Nothing is lost by cutting a text into lines. -/
theorem flatten_splitLines (s : List Char) : (splitLines s).flatten = s := by
  fun_induction splitLines s with
  | case1 => rfl
  | case2 rest ih => simp [ih]
  | case3 c rest _ h ih => simp_all
  | case4 c rest _ line lines h ih => simp_all

/-- A line is cut off behind its line feed. -/
theorem splitLines_line {line : List Char} (h : '\n' ∉ line) (rest : List Char) :
    splitLines (line ++ '\n' :: rest) = (line ++ ['\n']) :: splitLines rest := by
  induction line with
  | nil => rfl
  | cons c line ih =>
    have hc : c ≠ '\n' := fun e => h (e ▸ List.mem_cons_self)
    have hline : '\n' ∉ line := fun m => h (List.mem_cons_of_mem c m)
    rw [List.cons_append, splitLines.eq_def]
    simp [ih hline]

/-- A line has no line feed but the one at its end. -/
theorem exists_of_mem_splitLines {s line : List Char} (h : line ∈ splitLines s) :
    ∃ text, '\n' ∉ text ∧ (line = text ∨ line = text ++ ['\n']) := by
  fun_induction splitLines s generalizing line with
  | case1 => exact nomatch h
  | case2 rest ih =>
    rcases List.mem_cons.1 h with rfl | h
    · exact ⟨[], List.not_mem_nil, .inr rfl⟩
    · exact ih h
  | case3 c rest hc hrest ih =>
    obtain rfl := List.mem_singleton.1 h
    exact ⟨[c], by simpa using Ne.symm hc, .inl rfl⟩
  | case4 c rest hc first lines hrest ih =>
    rw [hrest] at ih
    rcases List.mem_cons.1 h with rfl | h
    · obtain ⟨text, htext, hline⟩ := ih List.mem_cons_self
      refine ⟨c :: text, by simpa using ⟨Ne.symm hc, htext⟩, ?_⟩
      exact hline.imp (congrArg (c :: ·)) (congrArg (c :: ·))
    · exact ih (List.mem_cons_of_mem first h)

/-- A text without carriage returns is kept. -/
theorem normalizeNewlines_eq_self {s : List Char} (h : '\r' ∉ s) : normalizeNewlines s = s := by
  fun_induction normalizeNewlines s with
  | case1 => rfl
  | case2 => simp at h
  | case3 => simp at h
  | case4 c rest _ _ ih => simp_all

end JavaFragments.Text
