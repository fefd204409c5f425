import ScopePaint.Style.TerminalText

/-!
# What a terminal is sent

A code is sent as an escape sequence (`TerminalCode.isEscapeSequence`) and text as it is. So what is
sent for some pieces leaves the characters of them that show, once escape sequences are taken out
(`TerminalPiece.leaves`). Where there is no escape character in the text itself, they can be told
from it: each of them begins with one and ends with the next `m` (`Leaves.withoutEscapes_eq`).
-/

set_option autoImplicit false

namespace ScopePaint

/-- What may stand between the bracket of an escape sequence and its end. -/
def isParameter (c : Char) : Bool := c.isDigit || c == ';'

/-- An escape character and a bracket, numbers with semicolons between them, and an `m`. -/
def IsEscapeSequence (cs : List Char) : Prop :=
  ∃ numbers, cs = '\x1b' :: '[' :: (numbers ++ ['m']) ∧ numbers.all isParameter = true

/-- What is sent leaves a text if that is all of it but for some escape sequences. -/
inductive Leaves : List Char → List Char → Prop where
  | nil : Leaves [] []
  | char (c : Char) {sent text : List Char} (h : Leaves sent text) : Leaves (c :: sent) (c :: text)
  | escape {codes sent text : List Char} (hcodes : IsEscapeSequence codes) (h : Leaves sent text) :
      Leaves (codes ++ sent) text

/-- What is sent without each escape character and what follows it up to the next `m`. -/
def withoutEscapes (inside : Bool) : List Char → List Char
  | [] => []
  | c :: rest =>
    if inside then withoutEscapes (c ≠ 'm') rest
    else if c = '\x1b' then withoutEscapes true rest
    else c :: withoutEscapes false rest

/-! ## Codes -/

/-- What stands in joined texts stands in one of them or in the separator. -/
theorem Text.mem_join {separator : String} {pieces : List String} {c : Char}
    (h : c ∈ (join separator pieces).toList) :
    c ∈ separator.toList ∨ ∃ piece ∈ pieces, c ∈ piece.toList := by
  induction pieces with
  | nil => simp [join] at h
  | cons piece rest ih =>
    cases rest with
    | nil => exact Or.inr ⟨piece, List.mem_cons_self, h⟩
    | cons next rest =>
      rw [join, String.toList_append, String.toList_append, List.mem_append, List.mem_append] at h
      · rcases h with (hpiece | hseparator) | hrest
        · exact Or.inr ⟨piece, List.mem_cons_self, hpiece⟩
        · exact Or.inl hseparator
        · exact (ih hrest).imp_right fun ⟨other, hother, hc⟩ =>
            ⟨other, List.mem_cons_of_mem _ hother, hc⟩
      · simp

namespace TerminalCode

/-- The numbers of a code for a color are parameters. -/
theorem isParameter_colorNumbers {kind : String} (hkind : kind.toList.all isParameter = true)
    (color : Color) : (colorNumbers kind color).toList.all isParameter = true := by
  have hnumber : ∀ n : Nat, ∀ c ∈ (toString n).toList, isParameter c = true := by
    intro n c hc
    rw [show toString n = Nat.repr n from rfl, Nat.repr_eq_ofList_toDigits,
      String.toList_ofList] at hc
    have hdigit : c.isDigit = true := Nat.isDigit_of_mem_toDigits (by omega) (by omega) hc
    simp [isParameter, hdigit]
  refine List.all_eq_true.2 fun c hc => ?_
  rcases Text.mem_join hc with hseparator | ⟨piece, hpiece, hc⟩
  · obtain rfl : c = ';' := by simpa using hseparator
    decide
  · simp only [List.mem_cons, List.not_mem_nil, or_false] at hpiece
    rcases hpiece with hpiece | rfl | rfl | rfl | rfl
    · exact List.all_eq_true.1 hkind c (hpiece ▸ hc)
    · obtain rfl : c = '2' := by simpa using hc
      decide
    · exact hnumber _ c hc
    · exact hnumber _ c hc
    · exact hnumber _ c hc

/-- So are those of each code. -/
theorem isParameter_numbers (code : TerminalCode) :
    code.numbers.toList.all isParameter = true := by
  cases code with
  | foreground color => exact isParameter_colorNumbers (by decide) color
  | background color => exact isParameter_colorNumbers (by decide) color
  | underlineColor color => exact isParameter_colorNumbers (by decide) color
  | bold | italic | underline | reset => decide

/-- **A code is sent as an escape sequence.** -/
theorem isEscapeSequence (code : TerminalCode) :
    IsEscapeSequence (TerminalPiece.code code).render.toList := by
  refine ⟨code.numbers.toList, ?_, code.isParameter_numbers⟩
  simp [TerminalPiece.render]

end TerminalCode

/-! ## What is left -/

namespace Leaves

variable {sent text : List Char}

/-- Text in front stays. -/
theorem text_append (h : Leaves sent text) (cs : List Char) : Leaves (cs ++ sent) (cs ++ text) := by
  induction cs with
  | nil => exact h
  | cons c cs ih => exact ih.char c

/-- An escape sequence is over at its first `m`. -/
theorem withoutEscapes_append {codes : List Char} (hcodes : IsEscapeSequence codes)
    (rest : List Char) : withoutEscapes false (codes ++ rest) = withoutEscapes false rest := by
  obtain ⟨numbers, rfl, hnumbers⟩ := hcodes
  have hinside : withoutEscapes true (numbers ++ 'm' :: rest) = withoutEscapes false rest := by
    induction numbers with
    | nil => simp [withoutEscapes]
    | cons c numbers ih =>
      rw [List.all_cons, Bool.and_eq_true] at hnumbers
      have hc : c ≠ 'm' := by
        rintro rfl
        exact absurd hnumbers.1 (by decide)
      simpa [withoutEscapes, hc] using ih hnumbers.2
  simpa [withoutEscapes] using hinside

/-- **A text without escape characters is what is not in escape sequences.** -/
theorem withoutEscapes_eq (h : Leaves sent text) (hplain : '\x1b' ∉ text) :
    withoutEscapes false sent = text := by
  induction h with
  | nil => rfl
  | char c h ih =>
    rw [List.mem_cons, not_or] at hplain
    rw [withoutEscapes, if_neg (by simp), if_neg fun hc => hplain.1 hc.symm, ih hplain.2]
  | escape hcodes h ih => rw [withoutEscapes_append hcodes, ih hplain]

end Leaves

/-- **What is sent for some pieces leaves what shows of them.** -/
theorem TerminalPiece.leaves (pieces : List TerminalPiece) :
    Leaves (String.join (pieces.map render)).toList (pieces.flatMap shown) := by
  induction pieces with
  | nil => exact .nil
  | cons piece rest ih =>
    rw [List.map_cons, String.join_cons, String.toList_append, List.flatMap_cons]
    cases piece with
    | code c => exact ih.escape c.isEscapeSequence
    | text cs =>
      rw [render, shown, String.toList_ofList]
      exact ih.text_append cs

end ScopePaint
