import ScopePaint.Text.Pieces

/-!
# Texts and their lines

Putting line breaks back between the lines of a text gives the text (`joinLines_splitAt`), and lines
that each end with a line break are found again (`splitAt_terminated`). If each line loses a carriage
return at its end, the text loses those that stand before a line break or at its own end
(`joinLines_map_withoutReturn`).
-/

set_option autoImplicit false

namespace ScopePaint.Text

/-- Lines with line breaks between them. -/
def joinLines : List (List Char) → List Char
  | [] => []
  | line :: rest => line ++ rest.flatMap fun next => '\n' :: next

/-- A line break stands between a line and the others. -/
theorem joinLines_cons_of_ne_nil (line : List Char) {rest : List (List Char)} (h : rest ≠ []) :
    joinLines (line :: rest) = line ++ '\n' :: joinLines rest := by
  cases rest with
  | nil => exact absurd rfl h
  | cons next rest => simp [joinLines]

/-- A character in front of the first line is in front of the text. -/
theorem joinLines_cons_cons (c : Char) (line : List Char) (rest : List (List Char)) :
    joinLines ((c :: line) :: rest) = c :: joinLines (line :: rest) := rfl

/-- Texts that are joined by line breaks are joined lines. -/
theorem toList_join (lines : List String) :
    (join "\n" lines).toList = joinLines (lines.map String.toList) := by
  induction lines with
  | nil => rfl
  | cons line rest ih =>
    cases rest with
    | nil => simp [join, joinLines]
    | cons next rest =>
      have hjoin : join "\n" (line :: next :: rest) =
          line ++ "\n" ++ join "\n" (next :: rest) := rfl
      rw [hjoin, List.map_cons, joinLines_cons_of_ne_nil _ (by simp), ← ih]
      simp

/-- A text has at least one piece. -/
theorem splitAt_ne_nil (separator : Char) (cs : List Char) : splitAt separator cs ≠ [] := by
  cases cs with
  | nil => simp [splitAt]
  | cons c rest =>
    rw [splitAt]
    split
    · simp
    · split <;> simp

/-- A text begins with its first line, and another line begins behind each line break. -/
theorem splitAt_cons (separator c : Char) (rest : List Char) :
    ∃ piece pieces, splitAt separator rest = piece :: pieces ∧
      splitAt separator (c :: rest) =
        if c = separator then [] :: piece :: pieces else (c :: piece) :: pieces := by
  obtain ⟨piece, pieces, hrest⟩ := List.exists_cons_of_ne_nil (splitAt_ne_nil separator rest)
  refine ⟨piece, pieces, hrest, ?_⟩
  rw [splitAt, hrest]

/-- **Putting line breaks back** between the lines of a text gives the text. -/
theorem joinLines_splitAt (cs : List Char) : joinLines (splitAt '\n' cs) = cs := by
  induction cs with
  | nil => rfl
  | cons c rest ih =>
    obtain ⟨piece, pieces, hrest, hcons⟩ := splitAt_cons '\n' c rest
    rw [hrest] at ih
    rw [hcons]
    split
    · rename_i hc
      rw [joinLines_cons_of_ne_nil _ (by simp), ih, hc]
      rfl
    · rw [joinLines_cons_cons, ih]

/-- The first line of a text ends at its first line break. -/
theorem splitAt_append_newline {line : List Char} (h : '\n' ∉ line) (rest : List Char) :
    splitAt '\n' (line ++ '\n' :: rest) = line :: splitAt '\n' rest := by
  induction line with
  | nil => simp [splitAt]
  | cons c line ih =>
    rw [List.mem_cons, not_or] at h
    rw [List.cons_append, splitAt, ih h.2, if_neg fun hc => h.1 hc.symm]

/-- **Lines that each end with a line break** are the lines of their text, and behind them there is
an empty one. -/
theorem splitAt_terminated {lines : List (List Char)} (h : ∀ line ∈ lines, '\n' ∉ line) :
    splitAt '\n' (lines.flatMap fun line => line ++ ['\n']) = lines ++ [[]] := by
  induction lines with
  | nil => rfl
  | cons line rest ih =>
    rw [List.flatMap_cons, List.append_assoc, List.singleton_append,
      splitAt_append_newline (h line List.mem_cons_self),
      ih fun other hother => h other (List.mem_cons_of_mem _ hother)]
    rfl

/-! ## Carriage returns -/

/-- A line without a carriage return at its end. -/
def withoutReturn (line : List Char) : List Char :=
  match line.reverse with
  | '\r' :: rest => rest.reverse
  | _ => line

/-- A text without the carriage returns that stand before a line break or at its end. -/
def dropReturns : List Char → List Char
  | [] => []
  | c :: rest =>
    if c = '\r' ∧ (rest.head? = none ∨ rest.head? = some '\n') then dropReturns rest
    else c :: dropReturns rest

/-- Nothing is added when carriage returns are dropped. -/
theorem dropReturns_sublist (cs : List Char) : (dropReturns cs).Sublist cs := by
  induction cs with
  | nil => exact List.Sublist.slnil
  | cons c rest ih =>
    rw [dropReturns]
    split
    · exact ih.cons c
    · exact ih.cons_cons c

/-- A line of one character loses it if that is a carriage return. -/
theorem withoutReturn_singleton (c : Char) :
    withoutReturn [c] = if c = '\r' then [] else [c] := by
  unfold withoutReturn
  split
  · rename_i rest h
    obtain ⟨rfl, rfl⟩ : c = '\r' ∧ [] = rest := by simpa using h
    rfl
  · rename_i h
    rw [if_neg fun hc => h [] (by simp [hc])]

/-- The end of a line is that of the line without its first character, unless that is all of it. -/
theorem withoutReturn_cons (c : Char) {line : List Char} (h : line ≠ []) :
    withoutReturn (c :: line) = c :: withoutReturn line := by
  obtain ⟨front, last, rfl⟩ : ∃ front last, line = front ++ [last] :=
    ⟨line.dropLast, line.getLast h, (List.dropLast_concat_getLast h).symm⟩
  have hreverse : (c :: (front ++ [last])).reverse = last :: (front.reverse ++ [c]) := by simp
  unfold withoutReturn
  rw [hreverse, List.reverse_concat]
  by_cases hlast : last = '\r'
  · simp [hlast]
  · split
    · rename_i h
      exact absurd (List.cons.inj h).1 hlast
    · split
      · rename_i h
        exact absurd (List.cons.inj h).1 hlast
      · rfl

/-- The first line of a text is empty where the text ends or begins with a line break. -/
theorem eq_nil_iff_of_splitAt {cs piece : List Char} {pieces : List (List Char)}
    (h : splitAt '\n' cs = piece :: pieces) :
    piece = [] ↔ cs.head? = none ∨ cs.head? = some '\n' := by
  cases cs with
  | nil =>
    obtain ⟨rfl, -⟩ := List.cons.inj h
    simp
  | cons c rest =>
    obtain ⟨first, others, -, hcons⟩ := splitAt_cons '\n' c rest
    rw [hcons] at h
    by_cases hc : c = '\n'
    · rw [if_pos hc] at h
      obtain ⟨rfl, -⟩ := List.cons.inj h
      simp [hc]
    · rw [if_neg hc] at h
      obtain ⟨rfl, -⟩ := List.cons.inj h
      simp [hc]

/-- **Lines that lose their carriage returns** make up the text without those before its line breaks
and at its end. -/
theorem joinLines_map_withoutReturn (cs : List Char) :
    joinLines ((splitAt '\n' cs).map withoutReturn) = dropReturns cs := by
  induction cs with
  | nil => rfl
  | cons c rest ih =>
    obtain ⟨piece, pieces, hrest, hcons⟩ := splitAt_cons '\n' c rest
    have hempty := eq_nil_iff_of_splitAt hrest
    rw [hrest, List.map_cons] at ih
    rw [hcons, dropReturns, ← ih]
    by_cases hbreak : c = '\n'
    · -- A line break: an empty line ends here.
      rw [if_pos hbreak, hbreak, if_neg fun h => absurd h.1 (by decide), List.map_cons,
        joinLines_cons_of_ne_nil _ (by simp)]
      rfl
    · rw [if_neg hbreak, List.map_cons]
      by_cases hpiece : piece = []
      · -- The character is all of its line, so it is left out if it is a carriage return.
        rw [hpiece, withoutReturn_singleton]
        by_cases hc : c = '\r'
        · rw [if_pos hc, if_pos ⟨hc, hempty.1 hpiece⟩]
          rfl
        · rw [if_neg hc, if_neg fun h => hc h.1]
          rfl
      · rw [withoutReturn_cons c hpiece, joinLines_cons_cons,
          if_neg fun h => hpiece (hempty.2 h.2)]

end ScopePaint.Text
