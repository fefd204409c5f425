import ScopePaint.Text.Bytes

/-!
# Places between the characters of a text

An offset is a boundary of a text if some of the text's characters, from the first one on, take
exactly as many bytes. Cutting a text at an offset succeeds precisely at its boundaries
(`splitAtByte?_eq_some_iff`), and the offsets that are computed from character counts are boundaries
that grow with the count (`isBoundary_byteOffset`, `byteOffset_mono`).
-/

set_option autoImplicit false

namespace ScopePaint.Text

/-- The empty text takes no bytes. -/
@[simp] theorem byteLength_nil : byteLength [] = 0 := rfl

/-- A character takes its bytes in front of the others. -/
@[simp] theorem byteLength_cons (c : Char) (cs : List Char) :
    byteLength (c :: cs) = c.utf8Size + byteLength cs := rfl

/-- Lengths in bytes add up. -/
@[simp] theorem byteLength_append (before after : List Char) :
    byteLength (before ++ after) = byteLength before + byteLength after := by
  induction before with
  | nil => simp
  | cons c before ih => simp only [List.cons_append, byteLength_cons, ih]; omega

/-- Only the empty text takes no bytes, because each character takes at least one. -/
theorem byteLength_eq_zero_iff {cs : List Char} : byteLength cs = 0 ↔ cs = [] := by
  cases cs with
  | nil => simp
  | cons c cs =>
    have := c.utf8Size_pos
    simp only [byteLength_cons, reduceCtorEq, iff_false]
    omega

/-- Cutting a text at the length of a part of it in front gives that part and the rest. -/
theorem splitAtByte?_append (before after : List Char) :
    splitAtByte? (byteLength before) (before ++ after) = some (before, after) := by
  induction before with
  | nil => cases after <;> simp [splitAtByte?]
  | cons c before ih =>
    have hpos := c.utf8Size_pos
    obtain ⟨n, hn⟩ : ∃ n, byteLength (c :: before) = n + 1 :=
      ⟨byteLength (c :: before) - 1, by simp only [byteLength_cons]; omega⟩
    have hle : c.utf8Size ≤ n + 1 := by rw [← hn, byteLength_cons]; omega
    have hrest : n + 1 - c.utf8Size = byteLength before := by rw [← hn, byteLength_cons]; omega
    rw [hn, List.cons_append, splitAtByte?, if_pos hle, hrest, ih]
    rfl

/-- A text is cut into two parts that make it up, the first of which is as long as was asked. -/
theorem splitAtByte?_eq_some_iff {n : Nat} {cs before after : List Char} :
    splitAtByte? n cs = some (before, after) ↔ cs = before ++ after ∧ byteLength before = n := by
  constructor
  · intro h
    induction cs generalizing n before with
    | nil =>
      cases n with
      | zero =>
        simp only [splitAtByte?, Option.some.injEq, Prod.mk.injEq] at h
        simp [← h.1, ← h.2]
      | succ n => simp [splitAtByte?] at h
    | cons c cs ih =>
      cases n with
      | zero =>
        simp only [splitAtByte?, Option.some.injEq, Prod.mk.injEq] at h
        simp [← h.1, ← h.2]
      | succ n =>
        rw [splitAtByte?] at h
        split at h
        · rename_i hle
          obtain ⟨parts, hparts, hpair⟩ := Option.map_eq_some_iff.1 h
          obtain ⟨hcs, hlen⟩ := @ih (n + 1 - c.utf8Size) parts.1 (by
            rw [hparts, ← (Prod.mk.inj hpair).2])
          obtain ⟨rfl, rfl⟩ := Prod.mk.inj hpair
          exact ⟨by rw [hcs, List.cons_append], by rw [byteLength_cons, hlen]; omega⟩
        · exact absurd h (by simp)
  · rintro ⟨rfl, rfl⟩
    exact splitAtByte?_append before after

/-- An offset at which a text can be cut without cutting a character. -/
def IsBoundary (cs : List Char) (offset : Nat) : Prop :=
  ∃ before after, cs = before ++ after ∧ byteLength before = offset

/-- A text can be split at the bytes between its characters. -/
theorem isBoundary_iff_isSome {cs : List Char} {offset : Nat} :
    IsBoundary cs offset ↔ (splitAtByte? offset cs).isSome = true := by
  rw [Option.isSome_iff_exists]
  constructor
  · rintro ⟨before, after, h⟩
    exact ⟨(before, after), splitAtByte?_eq_some_iff.2 h⟩
  · rintro ⟨⟨before, after⟩, h⟩
    exact ⟨before, after, splitAtByte?_eq_some_iff.1 h⟩

instance (cs : List Char) (offset : Nat) : Decidable (IsBoundary cs offset) :=
  decidable_of_iff _ isBoundary_iff_isSome.symm

/-- The start of a text is a boundary. -/
@[simp] theorem isBoundary_zero (cs : List Char) : IsBoundary cs 0 := ⟨[], cs, rfl, rfl⟩

/-- So is its end. -/
@[simp] theorem isBoundary_byteLength (cs : List Char) : IsBoundary cs (byteLength cs) :=
  ⟨cs, [], by simp, rfl⟩

/-- No boundary lies behind the end of the text. -/
theorem IsBoundary.le {cs : List Char} {offset : Nat} (h : IsBoundary cs offset) :
    offset ≤ byteLength cs := by
  obtain ⟨before, after, rfl, rfl⟩ := h
  simp

/-- At a boundary in front of the end a character begins, and the offset behind that character is a
boundary as well. -/
theorem IsBoundary.exists_char {cs : List Char} {offset : Nat} (h : IsBoundary cs offset)
    (hlt : offset < byteLength cs) :
    ∃ before c after, splitAtByte? offset cs = some (before, c :: after) ∧
      IsBoundary cs (offset + c.utf8Size) := by
  obtain ⟨before, after, rfl, rfl⟩ := h
  cases after with
  | nil => simp at hlt
  | cons c after =>
    refine ⟨before, c, after, splitAtByte?_append before (c :: after), before ++ [c], after, ?_, ?_⟩
    · simp
    · simp

/-- Of two cuts of a text, the one further on cuts what stands behind the other one. -/
theorem exists_front_of_append_eq {before after before' after' : List Char}
    (h : before ++ after = before' ++ after') (hle : byteLength before ≤ byteLength before') :
    ∃ front, before' = before ++ front ∧ after = front ++ after' := by
  rcases List.append_eq_append_iff.1 h with ⟨front, hbefore, hafter⟩ | ⟨more, rfl, hafter⟩
  · exact ⟨front, hbefore, hafter⟩
  · -- The first part is the longer one only if both are the same.
    rw [byteLength_append] at hle
    obtain rfl : more = [] := byteLength_eq_zero_iff.1 (by omega)
    exact ⟨[], by simp, hafter.symm⟩

/-- No boundary lies inside a character. -/
theorem IsBoundary.eq_or_le {before after : List Char} {c : Char} {offset : Nat}
    (h : IsBoundary (before ++ c :: after) offset) (hle : byteLength before ≤ offset) :
    offset = byteLength before ∨ byteLength (before ++ [c]) ≤ offset := by
  obtain ⟨front, back, hcut, rfl⟩ := h
  obtain ⟨more, rfl, hmore⟩ := exists_front_of_append_eq hcut hle
  cases more with
  | nil => simp
  | cons d more =>
    obtain ⟨rfl, -⟩ := List.cons.inj hmore
    simp

/-- The start of each character is a boundary. -/
theorem isBoundary_byteOffset (cs : List Char) (index : Nat) :
    IsBoundary cs (byteOffset cs index) :=
  ⟨cs.take index, cs.drop index, by simp, rfl⟩

/-- Offsets behind more characters are not smaller. -/
theorem byteOffset_mono (cs : List Char) {i j : Nat} (h : i ≤ j) :
    byteOffset cs i ≤ byteOffset cs j := by
  have htake : (cs.take j).take i = cs.take i := by rw [List.take_take, Nat.min_eq_left h]
  have hsplit : cs.take i ++ (cs.take j).drop i = cs.take j := by
    rw [← htake, List.take_append_drop]
  unfold byteOffset
  rw [← hsplit, byteLength_append]
  omega

/-- No character starts behind the end of the text. -/
theorem byteOffset_le (cs : List Char) (index : Nat) : byteOffset cs index ≤ byteLength cs :=
  (isBoundary_byteOffset cs index).le

/-- The offset behind the characters of a part in front is the length of that part. -/
theorem byteOffset_append (before after : List Char) :
    byteOffset (before ++ after) before.length = byteLength before := by
  simp [byteOffset]

end ScopePaint.Text
