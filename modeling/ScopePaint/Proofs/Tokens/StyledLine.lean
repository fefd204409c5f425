import ScopePaint.Proofs.Style.StretchEnds
import ScopePaint.Proofs.Tokens.Application

/-!
# Styling a line inside of a longer text

Styling a line clears its range, writes on the ranges of its tokens and on the whole range again. So
what clearing and writing keep is kept by all of it (`TokenLine.apply_induction`): the text, and all
styling in front of the line. If a text ends with the characters of a line, styling the line in it
leaves from there on what styling the line alone leaves (`StyledText.EndsWith.apply`): ranges are
moved by the place where the line starts, and clamped ones end with the line in both cases.
-/

set_option autoImplicit false

namespace ScopePaint

open Text (Span)

namespace TokenLine

/-- Write the attributes of tokens in a line that begins at `start`. -/
def writeTokens (start : Nat) (selected base : Bool) (t : StyledText) (tokens : List Token) :
    StyledText :=
  tokens.foldl (fun t token => t.writeAll ⟨start + token.range.start, start + token.range.stop⟩
    (writes selected base token)) t

/-- The paragraph style does not depend on the text that is written. -/
theorem foldl_writeToken (start : Nat) (selected base : Bool) (tokens : List Token)
    (t : StyledText) (p : ParagraphStyle) :
    tokens.foldl (writeToken start selected base) (t, p) =
      (writeTokens start selected base t tokens,
        ThemeAttribute.paragraph p (tokens.flatMap (writes selected base))) := by
  induction tokens generalizing t p with
  | nil => rfl
  | cons token rest ih =>
    have hparagraph : ThemeAttribute.paragraph p ((token :: rest).flatMap (writes selected base)) =
        ThemeAttribute.paragraph (ThemeAttribute.paragraph p (writes selected base token))
          (rest.flatMap (writes selected base)) := List.foldl_append
    rw [List.foldl_cons, writeToken, foldl_write, ih, hparagraph]
    rfl

/-- The text in which the tokens of a line are written: in base mode the line is cleared before. -/
def prepared (l : TokenLine) (text : StyledText) (start : Nat) (base : Bool) : StyledText :=
  if base then text.clear ⟨start, start + l.length⟩ else text

/-- Styling a line: its range is cleared in base mode, its tokens are written, and one paragraph
style is put on all of it. -/
theorem apply_eq (l : TokenLine) (text : StyledText) (start : Nat) (selected base : Bool) :
    l.apply text start selected base =
      (writeTokens start selected base (l.prepared text start base) l.tokens).set
        ⟨start, start + l.length⟩
        (.paragraphStyle (ThemeAttribute.paragraph
          (if base then {} else (text.paragraphAt? start).getD {})
          (l.tokens.flatMap (writes selected base)))) := by
  unfold apply prepared
  simp only [foldl_writeToken]
  cases base <;> rfl

/-- **What clearing and writing keep is kept by styling a line.** -/
theorem apply_induction {p : StyledText → Prop} {l : TokenLine} {start : Nat}
    (hclear : ∀ t, p t → p (t.clear ⟨start, start + l.length⟩))
    (htoken : ∀ t v, ∀ token ∈ l.tokens, p t →
      p (t.set ⟨start + token.range.start, start + token.range.stop⟩ v))
    (hwhole : ∀ t v, p t → p (t.set ⟨start, start + l.length⟩ v))
    {text : StyledText} (h : p text) (selected : Bool) {base : Bool} :
    p (l.apply text start selected base) := by
  have hvalues : ∀ token ∈ l.tokens, ∀ (values : List StyleValue) (t : StyledText), p t →
      p (values.foldl (fun t v => t.set
        ⟨start + token.range.start, start + token.range.stop⟩ v) t) := by
    intro token hmem values
    induction values with
    | nil => exact fun t ht => ht
    | cons v rest ih => exact fun t ht => ih _ (htoken t v token hmem ht)
  have hattributes : ∀ token ∈ l.tokens, ∀ (attributes : List ThemeAttribute) (t : StyledText),
      p t → p (t.writeAll ⟨start + token.range.start, start + token.range.stop⟩ attributes) := by
    intro token hmem attributes
    induction attributes with
    | nil => exact fun t ht => ht
    | cons a rest ih => exact fun t ht => ih _ (hvalues token hmem a.values t ht)
  have htokens : ∀ tokens ⊆ l.tokens, ∀ t, p t → p (writeTokens start selected base t tokens) := by
    intro tokens
    induction tokens with
    | nil => exact fun _ t ht => ht
    | cons token rest ih =>
      intro hsub t ht
      obtain ⟨hmem, hrest⟩ := List.cons_subset.1 hsub
      exact ih hrest _ (hattributes token hmem _ t ht)
  have hprepared : p (l.prepared text start base) := by
    unfold prepared
    split
    · exact hclear _ h
    · exact h
  rw [apply_eq]
  exact hwhole _ _ (htokens l.tokens (List.Subset.refl _) _ hprepared)

variable {text : StyledText}

/-- Styling a line keeps the characters. -/
theorem text_apply (l : TokenLine) (text : StyledText) (start : Nat) (selected : Bool)
    {base : Bool} : (l.apply text start selected base).text = text.text :=
  apply_induction (p := fun t => t.text = text.text)
    (fun t ht => (StyledText.text_clear t _).trans ht)
    (fun t v _ _ ht => (StyledText.text_set t _ v).trans ht)
    (fun t v ht => (StyledText.text_set t _ v).trans ht) rfl selected

end TokenLine

namespace StyledText

variable {t u : StyledText} {start : Nat}

/-! ## In front of the line -/

/-- A text that can be written and has in front of an offset the styling of another one. -/
structure KeepsFront (start : Nat) (t u : StyledText) : Prop where
  written : u.Written
  value : ∀ key offset, offset < start → u.get? key offset = t.get? key offset

/-- Setting a value behind the front keeps it. -/
theorem KeepsFront.set (h : KeepsFront start t u) {r : Span} (hr : start ≤ r.start)
    (v : StyleValue) : KeepsFront start t (u.set r v) where
  written := h.written.set r v
  value := by
    intro key offset hfront
    have hout : ¬ (v.key = key ∧ (u.clamp r).contains offset = true) := by
      rintro ⟨-, hin⟩
      have := ((contains_clamp u r offset).1 hin).1
      omega
    rw [get?_set h.written.ordered, if_neg hout, h.value key offset hfront]

/-- So does clearing behind it. -/
theorem KeepsFront.clear (h : KeepsFront start t u) {r : Span} (hr : start ≤ r.start) :
    KeepsFront start t (u.clear r) where
  written := h.written.clear r
  value := by
    intro key offset hfront
    have hout : ¬ (u.clamp r).contains offset = true := by
      intro hin
      have := ((contains_clamp u r offset).1 hin).1
      omega
    rw [get?_clear h.written.ordered, if_neg hout, h.value key offset hfront]

/-- Appending keeps the front. -/
theorem keepsFront_append (h : t.Written) (cs : List Char) : KeepsFront t.length t (t.append cs) where
  written := h.append cs
  value := fun _ _ _ => rfl

/-- **Styling a line leaves everything in front of it as it was.** -/
theorem KeepsFront.apply (h : KeepsFront start t u) (l : TokenLine) (selected : Bool) :
    KeepsFront start t (l.apply u start selected true) :=
  TokenLine.apply_induction (fun _ ht => ht.clear (Nat.le_refl _))
    (fun _ v _ _ ht => ht.set (Nat.le_add_right _ _) v)
    (fun _ v ht => ht.set (Nat.le_refl _) v) h selected

/-! ## From the line on -/

/-- Two texts that can be written, one of which ends with the length and the styling of the
other. -/
structure EndsWith (start : Nat) (t u : StyledText) : Prop where
  whole : t.Written
  part : u.Written
  length : t.length = start + u.length
  value : ∀ key offset, t.get? key (start + offset) = u.get? key offset

/-- What is appended to a text has no styling, as if it stood alone. -/
theorem endsWith_append (h : t.Written) (cs : List Char) :
    EndsWith t.length (t.append cs) (ofChars cs) where
  whole := h.append cs
  part := .ofChars cs
  length := length_append t cs
  value := fun key offset => h.get?_eq_none (Nat.le_add_right _ offset) key

/-- A moved range has in the longer text the bytes that the range has in the shorter one. -/
theorem EndsWith.contains_clamp_iff (h : EndsWith start t u) (a b offset : Nat) :
    (t.clamp ⟨start + a, start + b⟩).contains (start + offset) = true ↔
      (u.clamp ⟨a, b⟩).contains offset = true := by
  rw [contains_clamp, contains_clamp, h.length]
  dsimp only
  omega

/-- A value can be set at the end of a text as in the end alone. -/
theorem EndsWith.set (h : EndsWith start t u) (a b : Nat) (v : StyleValue) :
    EndsWith start (t.set ⟨start + a, start + b⟩ v) (u.set ⟨a, b⟩ v) where
  whole := h.whole.set _ v
  part := h.part.set _ v
  length := by rw [length_set, length_set, h.length]
  value := by
    intro key offset
    rw [get?_set h.whole.ordered, get?_set h.part.ordered]
    simp only [h.contains_clamp_iff, h.value]

/-- So can the end be cleared. -/
theorem EndsWith.clear (h : EndsWith start t u) (a b : Nat) :
    EndsWith start (t.clear ⟨start + a, start + b⟩) (u.clear ⟨a, b⟩) where
  whole := h.whole.clear _
  part := h.part.clear _
  length := by rw [length_clear, length_clear, h.length]
  value := by
    intro key offset
    rw [get?_clear h.whole.ordered, get?_clear h.part.ordered]
    simp only [h.contains_clamp_iff, h.value]

/-- So can attributes be written. -/
theorem EndsWith.writeAll (h : EndsWith start t u) (a b : Nat) (attributes : List ThemeAttribute) :
    EndsWith start (t.writeAll ⟨start + a, start + b⟩ attributes)
      (u.writeAll ⟨a, b⟩ attributes) := by
  have hvalues : ∀ (values : List StyleValue) {t u : StyledText}, EndsWith start t u →
      EndsWith start (values.foldl (fun t v => t.set ⟨start + a, start + b⟩ v) t)
        (values.foldl (fun u v => u.set ⟨a, b⟩ v) u) := by
    intro values
    induction values with
    | nil => exact fun h => h
    | cons v rest ih => exact fun h => ih (h.set a b v)
  induction attributes generalizing t u with
  | nil => exact h
  | cons first rest ih => exact ih (hvalues first.values h)

/-- So can tokens be written. -/
theorem EndsWith.writeTokens (h : EndsWith start t u) (selected base : Bool)
    (tokens : List Token) : EndsWith start (TokenLine.writeTokens start selected base t tokens)
      (TokenLine.writeTokens 0 selected base u tokens) := by
  induction tokens generalizing t u with
  | nil => exact h
  | cons token rest ih =>
    have hwritten := h.writeAll token.range.start token.range.stop
      (TokenLine.writes selected base token)
    unfold TokenLine.writeTokens at ih ⊢
    simp only [List.foldl_cons, Nat.zero_add] at ih ⊢
    exact ih hwritten

/-- **Styling a line at the end of a longer text** leaves there what styling it alone leaves. -/
theorem EndsWith.apply (h : EndsWith start t u) (l : TokenLine) (selected : Bool) :
    EndsWith start (l.apply t start selected true) (l.apply u 0 selected true) := by
  have hwritten := (h.clear 0 l.length).writeTokens selected true l.tokens
  have hset := hwritten.set 0 l.length (.paragraphStyle (ThemeAttribute.paragraph {}
    (l.tokens.flatMap (TokenLine.writes selected true))))
  simp only [TokenLine.apply_eq, TokenLine.prepared, if_true, Nat.zero_add]
  exact hset

end StyledText

end ScopePaint
