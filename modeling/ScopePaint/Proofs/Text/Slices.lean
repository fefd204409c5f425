import ScopePaint.Proofs.Text.Boundary

/-!
# Parts of a text

A range of a text has a part if both of its ends lie between characters and in order
(`exists_slice?`), and the parts of two ranges that touch make up the part of both
(`slice?_append`). So ranges that lead from one place of a text to another (`Leads`) cut the part
between these places into theirs (`Leads.slice?_eq`).
-/

set_option autoImplicit false

namespace ScopePaint.Text

/-- The part of a range is what the range leaves of a text between two others. -/
theorem slice?_eq_some_iff {cs piece : List Char} {a b : Nat} :
    slice? cs ⟨a, b⟩ = some piece ↔
      ∃ before after, cs = before ++ piece ++ after ∧ byteLength before = a ∧
        a + byteLength piece = b := by
  unfold slice?
  constructor
  · intro h
    split at h
    · rename_i hle
      obtain ⟨⟨before, rest⟩, hfirst, h⟩ := Option.bind_eq_some_iff.1 h
      obtain ⟨⟨_, after⟩, hsecond, rfl⟩ := Option.map_eq_some_iff.1 h
      obtain ⟨rfl, hbefore⟩ := splitAtByte?_eq_some_iff.1 hfirst
      obtain ⟨rfl, hpiece⟩ := splitAtByte?_eq_some_iff.1 hsecond
      dsimp only at hle hpiece ⊢
      exact ⟨before, after, (List.append_assoc _ _ _).symm, hbefore, by omega⟩
    · exact absurd h (by simp)
  · rintro ⟨before, after, rfl, rfl, rfl⟩
    rw [if_pos (Nat.le_add_right _ _), List.append_assoc, splitAtByte?_append]
    dsimp only [Option.bind_some]
    rw [Nat.add_sub_cancel_left, splitAtByte?_append]
    rfl

/-- A range with a part lies between characters. -/
theorem isBoundary_of_slice? {cs piece : List Char} {r : Span} (h : slice? cs r = some piece) :
    IsBoundary cs r.start ∧ IsBoundary cs r.stop := by
  obtain ⟨before, after, rfl, hstart, hstop⟩ := slice?_eq_some_iff.1 h
  refine ⟨⟨before, piece ++ after, List.append_assoc _ _ _, hstart⟩,
    ⟨before ++ piece, after, rfl, ?_⟩⟩
  rw [byteLength_append, hstart, hstop]

/-- Behind some text, a range has a part if and only if the rest begins with that part. -/
theorem slice?_append_eq_some_iff {before after piece : List Char} :
    slice? (before ++ after) ⟨byteLength before, byteLength before + byteLength piece⟩ =
      some piece ↔ piece <+: after := by
  rw [slice?_eq_some_iff]
  constructor
  · rintro ⟨front, rest, hcut, hlength, -⟩
    rw [List.append_assoc] at hcut
    obtain ⟨more, rfl, hmore⟩ := exists_front_of_append_eq hcut (Nat.le_of_eq hlength.symm)
    rw [byteLength_append] at hlength
    obtain rfl : more = [] := byteLength_eq_zero_iff.1 (by omega)
    exact ⟨rest, hmore.symm⟩
  · rintro ⟨rest, rfl⟩
    exact ⟨before, rest, (List.append_assoc _ _ _).symm, rfl, rfl⟩

/-- A text is the part of all of its range. -/
theorem slice?_all (cs : List Char) : slice? cs ⟨0, byteLength cs⟩ = some cs :=
  slice?_eq_some_iff.2 ⟨[], [], by simp, rfl, by simp⟩

/-- **Between two places between characters** a text has a part. -/
theorem exists_slice? {cs : List Char} {a b : Nat} (ha : IsBoundary cs a) (hb : IsBoundary cs b)
    (hle : a ≤ b) : ∃ piece, slice? cs ⟨a, b⟩ = some piece := by
  obtain ⟨before, behind, rfl, rfl⟩ := ha
  obtain ⟨front, after, hsplit, rfl⟩ := hb
  obtain ⟨piece, rfl, rfl⟩ := exists_front_of_append_eq hsplit hle
  refine ⟨piece, slice?_eq_some_iff.2 ⟨before, after, ?_, rfl, ?_⟩⟩
  · exact (List.append_assoc _ _ _).symm
  · exact (byteLength_append _ _).symm

/-- **The parts of two ranges that touch** make up the part of both. -/
theorem slice?_append {cs piece next : List Char} {a b c : Nat}
    (h : slice? cs ⟨a, b⟩ = some piece) (h' : slice? cs ⟨b, c⟩ = some next) :
    slice? cs ⟨a, c⟩ = some (piece ++ next) := by
  obtain ⟨before, after, hcs, rfl, rfl⟩ := slice?_eq_some_iff.1 h
  obtain ⟨front, rest, hcs', hfront, rfl⟩ := slice?_eq_some_iff.1 h'
  -- What comes before the second part is what comes before the first one and that part.
  have hcut : splitAtByte? (byteLength front) cs = some (front, next ++ rest) := by
    rw [hcs', List.append_assoc, splitAtByte?_append]
  have hcut' : splitAtByte? (byteLength front) cs = some (before ++ piece, after) := by
    rw [hcs, hfront, ← byteLength_append, splitAtByte?_append]
  obtain ⟨-, rfl⟩ := Prod.mk.inj (Option.some.inj (hcut'.symm.trans hcut))
  refine slice?_eq_some_iff.2 ⟨before, rest, ?_, rfl, ?_⟩
  · rw [hcs]
    simp
  · rw [byteLength_append, Nat.add_assoc]

/-- A place in a text is one in the text behind another one. -/
theorem IsBoundary.behind {cs : List Char} {offset : Nat} (h : IsBoundary cs offset)
    (before : List Char) : IsBoundary (before ++ cs) (byteLength before + offset) := by
  obtain ⟨front, after, rfl, rfl⟩ := h
  exact ⟨before ++ front, after, (List.append_assoc _ _ _).symm, byteLength_append _ _⟩

/-! ## Ranges in a row -/

/-- Ranges that lead from one offset to another: each begins where the one before it ends, and they
end between characters. -/
def Leads (cs : List Char) : Nat → Nat → List Span → Prop
  | a, b, [] => a = b
  | a, b, r :: rest =>
    r.start = a ∧ a ≤ r.stop ∧ IsBoundary cs r.stop ∧ Leads cs r.stop b rest

variable {cs : List Char} {a b : Nat} {spans : List Span}

/-- **Ranges in a row cut a part of a text into theirs.** -/
theorem Leads.slice?_eq (h : Leads cs a b spans) (ha : IsBoundary cs a) :
    (∀ r ∈ spans, slice? cs r = some ((slice? cs r).getD [])) ∧
      slice? cs ⟨a, b⟩ = some (spans.flatMap fun r => (slice? cs r).getD []) := by
  induction spans generalizing a with
  | nil =>
    obtain rfl : a = b := h
    obtain ⟨before, after, rfl, rfl⟩ := ha
    exact ⟨by simp, slice?_eq_some_iff.2 ⟨before, after, by simp, rfl, rfl⟩⟩
  | cons r rest ih =>
    obtain ⟨rfl, hle, hstop, hrest⟩ := h
    obtain ⟨piece, hpiece⟩ := exists_slice? ha hstop hle
    obtain ⟨hparts, hall⟩ := ih hrest hstop
    have hfirst : slice? cs r = some ((slice? cs r).getD []) := by rw [hpiece]; rfl
    exact ⟨List.forall_mem_cons.2 ⟨hfirst, hparts⟩, slice?_append hfirst hall⟩

end ScopePaint.Text
