import ScopePaint.Proofs.Tokens.StyledLine
import ScopePaint.Proofs.Tokens.TokenAt

/-!
# What styling a line leaves at a byte

The token around a byte is given the attributes of its scopes, from the outermost scope inwards and
in each scope what always counts before what depends on the selection (`ScopeStack.given`). Styling
the line leaves at the byte the last value of each kind that these attributes have. Where they have
none, nothing is left in base mode, and otherwise what was there before. The attributes for lines are
put one after the other on one paragraph style, for all tokens of the line in their order, and the
outcome is put on the whole line. Bytes outside of the line are as they were
(`TokenLine.apply_leaves_last_writes`).
-/

set_option autoImplicit false

namespace ScopePaint

/-! ## What is given and written -/

/-- The attributes of a scope that are applied: those that always count, in base mode, and then those
that count by whether the text is selected. -/
def Scope.given (s : Scope) (selected base : Bool) : List ThemeAttribute :=
  (if base then s.style.attributes.items else []) ++
    if selected then s.style.inSelection.items else s.style.outOfSelection.items

/-- The attributes that are applied inside of all scopes of a stack: those of outer scopes first. -/
def ScopeStack.given (selected base : Bool) : ScopeStack → List ThemeAttribute
  | [] => []
  | s :: around => ScopeStack.given selected base around ++ s.given selected base

/-- The last value of a kind of styling among those that attributes for tokens have, in the order of
writing. -/
def ThemeAttribute.lastWritten? (key : StyleKey) (attributes : List ThemeAttribute) :
    Option StyleValue :=
  ((attributes.filter fun a => a.capability = .token).flatMap values).reverse.find? fun v =>
    v.key = key

/-- What the attributes for lines among some make of a paragraph style, one after the other. -/
def ThemeAttribute.paragraphOf (p : ParagraphStyle) (attributes : List ThemeAttribute) :
    ParagraphStyle :=
  (attributes.filter fun a => a.capability = .line).foldl (fun p a => a.applyToParagraph p) p

/-- A token writes the attributes that its scopes give. -/
theorem TokenLine.writes_eq_given (selected base : Bool) (t : Token) :
    writes selected base t = t.scopes.given selected base := by
  unfold writes
  induction t.scopes with
  | nil => rfl
  | cons s around ih =>
    rw [List.reverse_cons, List.flatMap_append, ih, ScopeStack.given, Scope.given]
    simp

namespace ThemeAttribute

/-- Only attributes for tokens have values. -/
theorem values_of_capability_ne {a : ThemeAttribute} (h : a.capability ≠ .token) :
    a.values = [] := by
  cases a <;> first
  | rfl
  | exact absurd rfl h

/-- Only attributes for lines change a paragraph style. -/
theorem applyToParagraph_of_capability_ne {a : ThemeAttribute} (h : a.capability ≠ .line)
    (p : ParagraphStyle) : a.applyToParagraph p = p := by
  cases a <;> first
  | rfl
  | exact absurd rfl h

/-- What is left by writing is the last value that is written, or else what was before. -/
theorem lastValue_eq (key : StyleKey) (before : Option StyleValue)
    (attributes : List ThemeAttribute) :
    lastValue key before attributes = (lastWritten? key attributes).or before := by
  induction attributes using List.reverseRecOn with
  | nil => rfl
  | append_singleton front a ih =>
    rw [lastValue_concat, ih]
    unfold lastWritten? valueFor?
    by_cases ha : a.capability = .token
    · simp [List.filter_append, ha, List.find?_append, Option.or_assoc]
    · simp [List.filter_append, ha, values_of_capability_ne ha]

/-- The paragraph is made of the attributes that concern it. -/
theorem paragraph_eq (p : ParagraphStyle) (attributes : List ThemeAttribute) :
    paragraph p attributes = paragraphOf p attributes := by
  unfold paragraph paragraphOf
  induction attributes generalizing p with
  | nil => rfl
  | cons a rest ih =>
    rw [List.foldl_cons, ih, List.filter_cons]
    by_cases ha : a.capability = .line
    · simp [ha]
    · simp [ha, applyToParagraph_of_capability_ne ha]

end ThemeAttribute

namespace TokenLine

variable {text : StyledText} {tokens : List Token} {a b start : Nat} {key : StyleKey}
  {offset : Nat}

/-! ## The tokens of a line -/

/-- Writing tokens keeps the characters. -/
theorem text_writeTokens (start : Nat) (selected base : Bool) (text : StyledText)
    (tokens : List Token) : (writeTokens start selected base text tokens).text = text.text := by
  unfold writeTokens
  induction tokens generalizing text with
  | nil => rfl
  | cons t rest ih => rw [List.foldl_cons, ih, StyledText.text_writeAll]

/-- It keeps a text ordered. -/
theorem ordered_writeTokens (h : text.Ordered) (start : Nat) (selected base : Bool)
    (tokens : List Token) : (writeTokens start selected base text tokens).Ordered := by
  unfold writeTokens
  induction tokens generalizing text with
  | nil => exact h
  | cons t rest ih => exact ih (StyledText.ordered_writeAll h _ _)

/-- **Writing the tokens of a row** changes the bytes around which there is a token, and leaves there
the last values that this token writes. -/
theorem get?_writeTokens (h : text.Ordered) (hrow : InRow a b tokens)
    (hinside : start + b ≤ text.length) (selected base : Bool) :
    (writeTokens start selected base text tokens).get? key (start + offset) =
      match tokenAt? tokens offset with
      | some t => ThemeAttribute.lastValue key (text.get? key (start + offset))
          (writes selected base t)
      | none => text.get? key (start + offset) := by
  induction tokens generalizing a text with
  | nil => rfl
  | cons t rest ih =>
    obtain ⟨rfl, hlt, hrest⟩ := inRow_cons.1 hrow
    have hle := hrest.le
    have hstep : writeTokens start selected base text (t :: rest) =
        writeTokens start selected base
          (text.writeAll ⟨start + t.range.start, start + t.range.stop⟩ (writes selected base t))
          rest := rfl
    have hlength : start + b ≤
        (text.writeAll ⟨start + t.range.start, start + t.range.stop⟩
          (writes selected base t)).length := by
      unfold StyledText.length at hinside ⊢
      rwa [StyledText.text_writeAll]
    have hcontains : (text.clamp ⟨start + t.range.start, start + t.range.stop⟩).contains
        (start + offset) = t.range.contains offset := by
      rw [Bool.eq_iff_iff, StyledText.contains_clamp, Text.Span.contains_iff]
      dsimp only
      omega
    rw [hstep, ih (StyledText.ordered_writeAll h _ _) hrest hlength, StyledText.get?_writeAll h,
      hcontains, tokenAt?_cons]
    by_cases hin : t.range.contains offset = true
    · -- No other token lies around the byte.
      have hbounds := Text.Span.contains_iff.1 hin
      rw [hrest.tokenAt?_eq_none (Or.inl hbounds.2)]
      simp [hin]
    · simp [hin]

/-- Bytes in front of the line are not written. -/
theorem get?_writeTokens_front (h : text.Ordered) (hfront : offset < start) (selected base : Bool)
    (tokens : List Token) :
    (writeTokens start selected base text tokens).get? key offset = text.get? key offset := by
  unfold writeTokens
  induction tokens generalizing text with
  | nil => rfl
  | cons t rest ih =>
    have hout : ¬ (text.clamp ⟨start + t.range.start, start + t.range.stop⟩).contains offset =
        true := by
      rw [StyledText.contains_clamp]
      dsimp only
      omega
    rw [List.foldl_cons, ih (StyledText.ordered_writeAll h _ _), StyledText.get?_writeAll h,
      if_neg hout]

/-! ## Whole lines -/

/-- The paragraph style that a line is given. -/
def paragraphStyle (l : TokenLine) (text : StyledText) (start : Nat) (selected base : Bool) :
    ParagraphStyle :=
  ThemeAttribute.paragraphOf (if base then {} else (text.paragraphAt? start).getD {})
    (l.tokens.flatMap fun t => t.scopes.given selected base)

section Apply

variable (l : TokenLine) (selected base : Bool)

/-- Styling a line in either mode writes its tokens, and its paragraph style on all of it. -/
theorem apply_eq_prepared (text : StyledText) (start : Nat) :
    l.apply text start selected base =
      (writeTokens start selected base (l.prepared text start base) l.tokens).set
        ⟨start, start + l.length⟩
        (.paragraphStyle (l.paragraphStyle text start selected base)) := by
  have hgiven : l.tokens.flatMap (writes selected base) =
      l.tokens.flatMap fun t => t.scopes.given selected base :=
    List.flatMap_congr fun t _ => writes_eq_given selected base t
  rw [apply_eq, paragraphStyle, ← hgiven, ← ThemeAttribute.paragraph_eq]

/-- Preparing a text keeps the characters. -/
theorem text_prepared (text : StyledText) (start : Nat) :
    (l.prepared text start base).text = text.text := by
  unfold prepared
  split
  · exact StyledText.text_clear text _
  · rfl

/-- It keeps a text ordered. -/
theorem ordered_prepared (h : text.Ordered) (start : Nat) :
    (l.prepared text start base).Ordered := by
  unfold prepared
  split
  · exact h.clear _
  · exact h

/-- On a base nothing is left in the range of the line. -/
theorem get?_prepared (h : text.Ordered) (hinside : start + l.length ≤ text.length) :
    (l.prepared text start base).get? key offset =
      if base = true ∧ start ≤ offset ∧ offset < start + l.length then none
      else text.get? key offset := by
  unfold prepared
  cases base with
  | false => simp
  | true =>
    have hcontains : (text.clamp ⟨start, start + l.length⟩).contains offset = true ↔
        start ≤ offset ∧ offset < start + l.length := by
      rw [StyledText.contains_clamp]
      dsimp only
      omega
    rw [if_pos rfl, StyledText.get?_clear h]
    simp only [hcontains, true_and]

/-- What styling a line leaves at an offset: on the line its paragraph style, and for the rest what
writing its tokens leaves. -/
theorem get?_apply (h : text.Ordered) (hinside : start + l.length ≤ text.length) :
    (l.apply text start selected base).get? key offset =
      if key = .paragraphStyle ∧ start ≤ offset ∧ offset < start + l.length then
        some (.paragraphStyle (l.paragraphStyle text start selected base))
      else (writeTokens start selected base (l.prepared text start base) l.tokens).get? key
        offset := by
  have hordered := ordered_writeTokens (l.ordered_prepared base h start) start selected base l.tokens
  have hcontains : ((writeTokens start selected base (l.prepared text start base)
      l.tokens).clamp ⟨start, start + l.length⟩).contains offset = true ↔
      start ≤ offset ∧ offset < start + l.length := by
    rw [StyledText.contains_clamp, StyledText.length, text_writeTokens, text_prepared,
      ← StyledText.length]
    dsimp only
    omega
  rw [apply_eq_prepared, StyledText.get?_set hordered]
  simp only [hcontains, StyleValue.key, eq_comm (a := StyleKey.paragraphStyle)]

end Apply

/-- **Styling a line leaves the last values that are written.** The tokens of the line are in a row,
and the line lies in the text. Nothing changes outside of the line. Each byte of the line has one
token around it, and is left with the last value of each kind that the scopes of this token write,
from the outermost scope inwards; where they write none, with nothing in base mode and with what was
there otherwise. All bytes of the line are left with one paragraph style, which the attributes of all
tokens make of the default one in base mode, and of the one at the start of the line otherwise. -/
theorem apply_leaves_last_writes {l : TokenLine} (hrow : InRow 0 l.length l.tokens)
    {text : StyledText} (hwritten : text.Written) {start : Nat}
    (hinside : start + l.length ≤ text.length) (selected base : Bool) :
    let styled := l.apply text start selected base
    styled.text = text.text ∧
    (∀ key offset, offset < start ∨ start + l.length ≤ offset →
      styled.get? key offset = text.get? key offset) ∧
    ∀ offset < l.length, ∃ t, tokenAt? l.tokens offset = some t ∧
      (∀ key ≠ StyleKey.paragraphStyle, styled.get? key (start + offset) =
        (ThemeAttribute.lastWritten? key (t.scopes.given selected base)).or
          (if base then none else text.get? key (start + offset))) ∧
      styled.get? .paragraphStyle (start + offset) =
        some (.paragraphStyle (ThemeAttribute.paragraphOf
          (if base then {} else (text.paragraphAt? start).getD {})
          (l.tokens.flatMap fun t => t.scopes.given selected base))) := by
  intro styled
  have hordered := hwritten.ordered
  have hprepared := l.ordered_prepared base hordered start
  have hlength : start + l.length ≤ (l.prepared text start base).length := by
    rwa [StyledText.length, text_prepared]
  refine ⟨l.text_apply text start selected, fun key offset hout => ?_,
    fun offset hlt => ?_⟩
  · have hline : ¬ (start ≤ offset ∧ offset < start + l.length) := by omega
    have hkept : (l.prepared text start base).get? key offset = text.get? key offset := by
      rw [l.get?_prepared base hordered hinside, if_neg fun h => hline h.2]
    rw [l.get?_apply selected base hordered hinside, if_neg fun h => hline h.2, ← hkept]
    rcases Nat.lt_or_ge offset start with hfront | hbehind
    · exact get?_writeTokens_front hprepared hfront selected base l.tokens
    · -- Behind the line no token is around the offset.
      obtain ⟨n, rfl⟩ := Nat.exists_eq_add_of_le hbehind
      rw [get?_writeTokens hprepared hrow hlength, hrow.tokenAt?_eq_none (Or.inr (by omega))]
  · obtain ⟨t, ht⟩ := Option.isSome_iff_exists.1 (hrow.tokenAt?_isSome_iff.2 ⟨Nat.zero_le _, hlt⟩)
    refine ⟨t, ht, fun key hkey => ?_, ?_⟩
    · rw [l.get?_apply selected base hordered hinside, if_neg fun h => hkey h.1,
        get?_writeTokens hprepared hrow hlength, ht]
      dsimp only
      rw [writes_eq_given, ThemeAttribute.lastValue_eq, l.get?_prepared base hordered hinside]
      have hline : start ≤ start + offset ∧ start + offset < start + l.length := by omega
      simp only [hline, and_true]
    · rw [l.get?_apply selected base hordered hinside, if_pos ⟨rfl, by omega, by omega⟩]
      rfl

/-- A line of two tokens, the second one inside of one scope more. Text that is not selected is
underlined by the outer scope in color, and by the inner one twice. -/
def underlinedLine : TokenLine :=
  let outer : Scope :=
    { number := 0, name := some ⟨rootScope⟩, style :=
      { attributes := ⟨[.bold]⟩
        outOfSelection := ⟨[.underline (some ⟨255, 0, 0, 255⟩) .single, .alignment .center]⟩ } }
  let inner : Scope :=
    { number := 1, name := some ⟨"comment"⟩, style :=
      { outOfSelection := ⟨[.underline none .double, .alignment .right]⟩ } }
  ⟨[⟨⟨1, 2⟩, [inner, outer]⟩, ⟨⟨0, 1⟩, [outer]⟩]⟩

/-- Underlining the middle of an italic text leaves it italic; the second byte of the line has the
inner underline in the outer color, and the alignment of the last token. -/
theorem apply_leaves_last_writes_underlined :
    InRow 0 underlinedLine.length underlinedLine.tokens ∧
      let text := (StyledText.ofString "abcd").set ⟨0, 4⟩ .italic
      let styled := underlinedLine.apply text 1 false false
      styled.get? .italic 3 = text.get? .italic 3 ∧
      styled.get? .italic 2 = some .italic ∧ styled.get? .bold 2 = none ∧
      styled.get? .underlineStyle 2 = some (.underlineStyle .double) ∧
      styled.get? .underlineColor 2 = some (.underlineColor ⟨255, 0, 0, 255⟩) ∧
      styled.get? .paragraphStyle 1 = some (.paragraphStyle { alignment := .right }) := by
  have hrow : InRow 0 underlinedLine.length underlinedLine.tokens :=
    ⟨rfl, by decide, rfl, by decide, rfl⟩
  have hwritten : ((StyledText.ofString "abcd").set ⟨0, 4⟩ .italic).Written :=
    .set _ _ (.ofChars _)
  have hinside : 1 + underlinedLine.length ≤
      ((StyledText.ofString "abcd").set ⟨0, 4⟩ .italic).length := by decide +kernel
  obtain ⟨-, hout, hline⟩ := apply_leaves_last_writes hrow hwritten hinside false false
  obtain ⟨t, ht, hkeys, -⟩ := hline 1 (by decide)
  obtain ⟨-, -, -, hparagraph⟩ := hline 0 (by decide)
  obtain rfl : t = ⟨⟨1, 2⟩, _⟩ := (Option.some.inj ht).symm
  refine ⟨hrow, hout _ _ (Or.inr (by decide)), (hkeys .italic (by decide)).trans ?_,
    (hkeys .bold (by decide)).trans ?_, (hkeys .underlineStyle (by decide)).trans ?_,
    (hkeys .underlineColor (by decide)).trans ?_, hparagraph.trans ?_⟩ <;> decide +kernel

end TokenLine

end ScopePaint
