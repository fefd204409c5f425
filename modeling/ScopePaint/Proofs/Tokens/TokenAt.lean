import ScopePaint.Proofs.Style.Layers
import ScopePaint.Tokens.TokenLine

/-!
# The token around a byte

`InRow a b tokens` says that tokens that are not empty lead from one offset to another without gaps
and overlaps, wherever characters begin and end. So each byte between the two offsets lies in one
token and no other byte lies in any (`InRow.tokenAt?_isSome_iff`).
-/

set_option autoImplicit false

namespace ScopePaint

/-! ## Rows of bytes -/

/-- Tokens that are not empty and lead from an offset to another one. -/
def InRow : Nat → Nat → List Token → Prop
  | a, b, [] => a = b
  | a, b, t :: rest => t.range.start = a ∧ a < t.range.stop ∧ InRow t.range.stop b rest

/-- The token of a row around an offset. -/
def tokenAt? (tokens : List Token) (offset : Nat) : Option Token :=
  tokens.find? fun t => t.range.contains offset

section InRow

variable {a b c : Nat} {tokens more : List Token} {t : Token} {offset : Nat}

/-- A row without tokens ends where it starts. -/
@[simp] theorem inRow_nil : InRow a b [] ↔ a = b := Iff.rfl

/-- A row is a token that is not empty and a row behind it. -/
@[simp] theorem inRow_cons : InRow a b (t :: tokens) ↔
    t.range.start = a ∧ a < t.range.stop ∧ InRow t.range.stop b tokens := Iff.rfl

/-- A token is a row from its start to its stop. -/
theorem inRow_singleton : InRow a b [t] ↔ t.range.start = a ∧ a < b ∧ t.range.stop = b := by
  rw [inRow_cons, inRow_nil]
  constructor
  · rintro ⟨hstart, hlt, rfl⟩
    exact ⟨hstart, hlt, rfl⟩
  · rintro ⟨hstart, hlt, rfl⟩
    exact ⟨hstart, hlt, rfl⟩

/-- Two rows one behind the other are a row. -/
theorem InRow.append (h : InRow a b tokens) (h' : InRow b c more) : InRow a c (tokens ++ more) := by
  induction tokens generalizing a with
  | nil => exact (inRow_nil.1 h) ▸ h'
  | cons t tokens ih => exact ⟨h.1, h.2.1, ih h.2.2⟩

/-- A row is cut in two at any of its tokens. -/
theorem InRow.exists_of_append (h : InRow a c (tokens ++ more)) :
    ∃ b, InRow a b tokens ∧ InRow b c more := by
  induction tokens generalizing a with
  | nil => exact ⟨a, rfl, h⟩
  | cons t tokens ih =>
    obtain ⟨hstart, hlt, hrest⟩ := h
    obtain ⟨b, hfront, hback⟩ := ih hrest
    exact ⟨b, ⟨hstart, hlt, hfront⟩, hback⟩

/-- A row does not end before it starts. -/
theorem InRow.le (h : InRow a b tokens) : a ≤ b := by
  induction tokens generalizing a with
  | nil => exact Nat.le_of_eq h
  | cons t tokens ih =>
    have := ih h.2.2
    have := h.2.1
    omega

/-- The token at an offset is the first one that contains it. -/
theorem tokenAt?_cons (t : Token) (tokens : List Token) (offset : Nat) :
    tokenAt? (t :: tokens) offset =
      if t.range.contains offset then some t else tokenAt? tokens offset := by
  unfold tokenAt?
  rw [List.find?_cons]
  cases t.range.contains offset <;> rfl

/-- **The bytes that a row leads over are those in its tokens.** -/
theorem InRow.tokenAt?_isSome_iff (h : InRow a b tokens) :
    (tokenAt? tokens offset).isSome ↔ a ≤ offset ∧ offset < b := by
  induction tokens generalizing a with
  | nil =>
    have := inRow_nil.1 h
    simp only [tokenAt?, List.find?_nil, Option.isSome_none, Bool.false_eq_true, false_iff]
    omega
  | cons t tokens ih =>
    obtain ⟨rfl, hlt, hrest⟩ := inRow_cons.1 h
    have hle := hrest.le
    rw [tokenAt?_cons]
    by_cases hin : t.range.contains offset = true
    · have hbounds := Text.Span.contains_iff.1 hin
      simp only [hin, if_true, Option.isSome_some, true_iff]
      omega
    · rw [if_neg hin, ih hrest]
      rw [Text.Span.contains_iff] at hin
      omega

/-- There is no token at an offset outside of a row. -/
theorem InRow.tokenAt?_eq_none (h : InRow a b tokens) (hout : offset < a ∨ b ≤ offset) :
    tokenAt? tokens offset = none := by
  rw [← Option.not_isSome_iff_eq_none, h.tokenAt?_isSome_iff]
  omega

/-- The bytes of a token of a row lie where the row leads. -/
theorem InRow.bounds_of_mem (h : InRow a b tokens) (ht : t ∈ tokens)
    (hin : t.range.contains offset = true) : a ≤ offset ∧ offset < b := by
  refine h.tokenAt?_isSome_iff.1 ?_
  unfold tokenAt?
  rw [List.find?_isSome]
  exact ⟨t, ht, hin⟩

/-- A byte lies in no more than one token of a row. -/
theorem InRow.tokenAt?_of_mem (h : InRow a b tokens) (ht : t ∈ tokens)
    (hin : t.range.contains offset = true) : tokenAt? tokens offset = some t := by
  induction tokens generalizing a with
  | nil => exact absurd ht (by simp)
  | cons u tokens ih =>
    obtain ⟨-, -, hrest⟩ := inRow_cons.1 h
    rw [tokenAt?_cons]
    rcases List.mem_cons.1 ht with rfl | ht
    · rw [if_pos hin]
    · have hbounds := hrest.bounds_of_mem ht hin
      have hout : ¬ u.range.contains offset = true := by
        rw [Text.Span.contains_iff]
        omega
      rw [if_neg hout, ih hrest ht]

end InRow

end ScopePaint
