import ScopePaint.Proofs.Style.Layers
import ScopePaint.Proofs.Theme.Overriding
import ScopePaint.Proofs.Tokens.CachedStyles

/-!
# How a token is styled

The attributes that count for a token are those that the theme gives to its whole stack. Styling the
token writes the attributes of all of its scopes from the outermost one inwards, among them such as
do not count. The outcome is the same for paragraphs. For other kinds of styling it is the same
precisely where an attribute that counts has a value of this kind whenever one of the same kind of
attribute further out has (`TokenLine.apply_agrees_iff`). That is not so for backgrounds, underlines
and links, whose attributes may have values of one kind of styling or of two: inside of a plain
background, a rounded one leaves the plain one there (`TokenLine.apply_disagrees_rounded`).
-/

set_option autoImplicit false

namespace ScopePaint

open Text (Span)

/-! ## Writing attributes on a text -/

namespace StyledText

variable {t : StyledText} {key : StyleKey} {offset : Nat}

/-- The last of several values for a key is the one in the range. -/
theorem get?_foldl_set (h : t.Ordered) (r : Span) (vs : List StyleValue) :
    (vs.foldl (fun t v => t.set r v) t).get? key offset =
      if (t.clamp r).contains offset then
        (vs.reverse.find? fun v => v.key = key).or (t.get? key offset)
      else t.get? key offset := by
  induction vs generalizing t with
  | nil => simp
  | cons v vs ih =>
    rw [List.foldl_cons, ih (h.set r v), get?_set h, clamp_eq_of_text_eq (text_set t r v),
      List.reverse_cons, List.find?_append]
    by_cases hin : (t.clamp r).contains offset = true
    · by_cases hkey : v.key = key
      · simp [hin, hkey]
      · simp [hin, hkey]
    · simp [hin]

/-- Setting several values keeps a text ordered. -/
theorem ordered_foldl_set (h : t.Ordered) (r : Span) (vs : List StyleValue) :
    (vs.foldl (fun t v => t.set r v) t).Ordered := by
  induction vs generalizing t with
  | nil => exact h
  | cons v vs ih => exact ih (h.set r v)

/-- It keeps the characters. -/
theorem text_foldl_set (t : StyledText) (r : Span) (vs : List StyleValue) :
    (vs.foldl (fun t v => t.set r v) t).text = t.text := by
  induction vs generalizing t with
  | nil => rfl
  | cons v vs ih => rw [List.foldl_cons, ih, text_set]

/-- Write attributes on a range, one after the other. -/
def writeAll (t : StyledText) (r : Span) (attributes : List ThemeAttribute) : StyledText :=
  attributes.foldl (fun t a => a.applyToRange t r) t

/-- Writing attributes keeps a text ordered. -/
theorem ordered_writeAll (h : t.Ordered) (r : Span) (attributes : List ThemeAttribute) :
    (t.writeAll r attributes).Ordered := by
  induction attributes generalizing t with
  | nil => exact h
  | cons a rest ih => exact ih (ordered_foldl_set h r a.values)

/-- It keeps the characters. -/
theorem text_writeAll (t : StyledText) (r : Span) (attributes : List ThemeAttribute) :
    (t.writeAll r attributes).text = t.text := by
  induction attributes generalizing t with
  | nil => rfl
  | cons a rest ih => exact (ih _).trans (text_foldl_set t r a.values)

/-- **Writing attributes leaves their last values** in the range. -/
theorem get?_writeAll (h : t.Ordered) (r : Span) (attributes : List ThemeAttribute) :
    (t.writeAll r attributes).get? key offset =
      if (t.clamp r).contains offset then
        ThemeAttribute.lastValue key (t.get? key offset) attributes
      else t.get? key offset := by
  induction attributes generalizing t with
  | nil => simp [writeAll, ThemeAttribute.lastValue]
  | cons a rest ih =>
    have hcons : t.writeAll r (a :: rest) = (a.applyToRange t r).writeAll r rest := rfl
    have hclamp : (a.applyToRange t r).clamp r = t.clamp r :=
      clamp_eq_of_text_eq (text_foldl_set t r a.values) r
    have hordered : (a.applyToRange t r).Ordered := ordered_foldl_set h r a.values
    rw [hcons, ih hordered, hclamp, ThemeAttribute.applyToRange, get?_foldl_set h]
    by_cases hin : (t.clamp r).contains offset = true
    · simp only [hin, if_true]
      rfl
    · simp [hin]

end StyledText

namespace TokenLine

/-- Write attributes once over a range that was cleared before: those of tokens on the text, those
of lines on a paragraph style that is then put on the whole range. -/
def writeOnce (attributes : List ThemeAttribute) (text : StyledText) (range : Span) : StyledText :=
  let written := attributes.foldl (write range) (text.clear range, {})
  written.1.set range (.paragraphStyle written.2)

/-- Attributes are written to the text and to the paragraph side by side. -/
theorem foldl_write (r : Span) (attributes : List ThemeAttribute) (t : StyledText)
    (p : ParagraphStyle) :
    attributes.foldl (write r) (t, p) =
      (t.writeAll r attributes, ThemeAttribute.paragraph p attributes) := by
  induction attributes generalizing t p with
  | nil => rfl
  | cons a rest ih =>
    have hwrite : write r (t, p) a = (a.applyToRange t r, a.applyToParagraph p) := by
      cases a <;> rfl
    rw [List.foldl_cons, hwrite, ih]
    rfl

/-- What writing attributes once leaves: their last values, and on the range one paragraph style. -/
theorem get?_writeOnce {t : StyledText} (h : t.Ordered) (r : Span)
    (attributes : List ThemeAttribute) (key : StyleKey) (offset : Nat) :
    (writeOnce attributes t r).get? key offset =
      if (t.clamp r).contains offset then
        if key = .paragraphStyle then
          some (.paragraphStyle (ThemeAttribute.paragraph {} attributes))
        else ThemeAttribute.lastValue key none attributes
      else t.get? key offset := by
  have hordered := h.clear r
  have hclear : (t.clear r).clamp r = t.clamp r :=
    StyledText.clamp_eq_of_text_eq (StyledText.text_clear t r) r
  have hclamp : ((t.clear r).writeAll r attributes).clamp r = t.clamp r := by
    rw [StyledText.clamp_eq_of_text_eq (StyledText.text_writeAll _ r attributes), hclear]
  unfold writeOnce
  rw [foldl_write]
  dsimp only
  rw [StyledText.get?_set (StyledText.ordered_writeAll hordered r attributes), hclamp,
    StyledText.get?_writeAll hordered, hclear, StyledText.get?_clear h]
  by_cases hin : (t.clamp r).contains offset = true
  · by_cases hkey : key = .paragraphStyle
    · simp [hin, hkey, StyleValue.key]
    · simp [hin, hkey, Ne.symm hkey, StyleValue.key]
  · simp [hin]

/-- Styling a line of one token writes the attributes of its scopes once. -/
theorem apply_single (stack : ScopeStack) (text : StyledText) (start n : Nat) (selected : Bool) :
    apply ⟨[⟨⟨0, n⟩, stack⟩]⟩ text start selected true =
      writeOnce (writes selected true ⟨⟨0, n⟩, stack⟩) text ⟨start, start + n⟩ := rfl

/-- **The attributes that count leave what all attributes leave** in a kind of styling, precisely if
each attribute that counts has a value of it whenever one of the same kind has. -/
theorem writeOnce_ofList_iff (attributes : List ThemeAttribute) (key : StyleKey) :
    (∀ text : StyledText, text.Written → ∀ start n offset, start ≤ offset → offset < start + n →
      (writeOnce attributes text ⟨start, start + n⟩).get? key offset =
        (writeOnce (AttributeSet.ofList attributes).items text ⟨start, start + n⟩).get?
          key offset) ↔
      ∀ a ∈ attributes, ∀ b ∈ (AttributeSet.ofList attributes).items, b.kind = a.kind →
        a.Writes key → b.Writes key := by
  rw [← ThemeAttribute.lastValue_eq_iff]
  constructor
  · intro hagree
    by_cases hkey : key = .paragraphStyle
    · rw [hkey, ThemeAttribute.lastValue_paragraphStyle, ThemeAttribute.lastValue_paragraphStyle]
    · have h := hagree (.ofChars ['a']) (.ofChars _) 0 1 0 (Nat.le_refl 0) (by decide)
      have hordered := (StyledText.Written.ofChars ['a']).ordered
      have hin : ((StyledText.ofChars ['a']).clamp ⟨0, 0 + 1⟩).contains 0 = true := by decide
      rw [get?_writeOnce hordered, get?_writeOnce hordered] at h
      simpa only [hin, hkey, if_true, if_false] using h
  · intro hlast text htext start n offset _ _
    rw [get?_writeOnce htext.ordered, get?_writeOnce htext.ordered,
      ThemeAttribute.paragraph_ofList, hlast]

end TokenLine

/-! ## Styled stacks -/

/-- A theme whose settings do not depend on the selection. -/
def Theme.Plain (t : Theme) : Prop := ∀ s ∈ t.settings, s.inSelection = [] ∧ s.outOfSelection = []

/-- A style without attributes that depend on the selection. -/
def ResolvedStyle.Plain (r : ResolvedStyle) : Prop :=
  r.inSelection.items = [] ∧ r.outOfSelection.items = []

/-- A style stays plain when settings without selections are merged into it. -/
theorem ResolvedStyle.Plain.foldl_merge {r : ResolvedStyle} (h : r.Plain)
    {settings : List ThemeSetting}
    (hs : ∀ s ∈ settings, s.inSelection = [] ∧ s.outOfSelection = []) :
    (settings.foldl ResolvedStyle.merge r).Plain := by
  induction settings generalizing r with
  | nil => exact h
  | cons s rest ih =>
    obtain ⟨⟨hin, hout⟩, hrest⟩ := List.forall_mem_cons.1 hs
    refine ih ?_ hrest
    simpa [ResolvedStyle.Plain, ResolvedStyle.merge, AttributeSet.mergeAll, hin, hout] using h

/-- In a plain theme scopes are resolved to plain styles. -/
theorem Theme.Plain.resolveScope {t : Theme} (h : t.Plain) (name : ScopeName)
    (around : List ScopeName) : (t.resolveScope name around).Plain := by
  refine ResolvedStyle.Plain.foldl_merge ⟨rfl, rfl⟩ fun s hs => ?_
  unfold Theme.applicable at hs
  obtain ⟨entry, hentry, rfl⟩ := List.mem_map.1 hs
  obtain ⟨setting, hmem, hsome⟩ := List.mem_filterMap.1 (List.mem_mergeSort.1 hentry)
  obtain ⟨n, -, rfl⟩ := Option.map_eq_some_iff.1 hsome
  exact h setting hmem

/-- The merged attributes of a stack are those of its scopes, from the outermost one inwards. -/
theorem ScopeStack.merged_eq_ofList (stack : ScopeStack) :
    stack.merged =
      AttributeSet.ofList (stack.reverse.flatMap fun s => s.style.attributes.items) := by
  unfold merged AttributeSet.ofList AttributeSet.mergeAll
  rw [List.foldl_flatMap]

/-- Under a theme that does not depend on the selection, a token gets the attributes that its scopes
always have. -/
theorem TokenLine.writes_of_plain {theme : Theme} (h : theme.Plain) {t : Token}
    (hs : t.scopes.Styled theme) (selected : Bool) :
    writes selected true t = t.scopes.reverse.flatMap fun s => s.style.attributes.items := by
  unfold writes
  apply List.flatMap_congr
  intro s hmem
  obtain ⟨front, around, hstack⟩ := List.append_of_mem (List.mem_reverse.1 hmem)
  have hstyled := hs s around ⟨front, hstack.symm⟩
  have hnone : s.style.Plain := by
    cases hname : s.name with
    | none =>
      rw [hstyled.anonymous hname]
      exact ⟨rfl, rfl⟩
    | some name =>
      rw [hstyled.named name hname]
      exact h.resolveScope name _
  cases selected <;> simp [hnone.1, hnone.2]

namespace TokenLine

/-- Styling a line of one token with a stack leaves in a kind of styling, on whatever text, what is
left by writing once each attribute that the theme gives to the stack. -/
def Agrees (theme : Theme) (stack : ScopeStack) (selected : Bool) (key : StyleKey) : Prop :=
  ∀ text : StyledText, text.Written → ∀ start n offset, start ≤ offset → offset < start + n →
    (apply ⟨[⟨⟨0, n⟩, stack⟩]⟩ text start selected true).get? key offset =
      (writeOnce (theme.resolveStack stack.path).items text ⟨start, start + n⟩).get? key offset

/-- **Where styling a token agrees with the attributes that count.** Under a theme that does not
depend on the selection, with a stack that is styled by it, there is agreement in a kind of styling
precisely if each attribute that the theme gives to the stack has a value of this kind whenever an
attribute of the same kind of one of the scopes has. So there always is for paragraphs and for the
kinds that attributes never leave out. -/
theorem apply_agrees_iff {theme : Theme} (h : theme.Plain) {stack : ScopeStack}
    (hs : stack.Styled theme) (selected : Bool) (key : StyleKey) :
    (Agrees theme stack selected key ↔
      ∀ s ∈ stack, ∀ a ∈ s.style.attributes.items, ∀ b ∈ (theme.resolveStack stack.path).items,
        b.kind = a.kind → a.Writes key → b.Writes key) ∧
    (key ∉ StyleKey.omitted → Agrees theme stack selected key) := by
  have hwrites : ∀ n, writes selected true ⟨⟨0, n⟩, stack⟩ =
      stack.reverse.flatMap fun s => s.style.attributes.items :=
    fun n => writes_of_plain h (t := ⟨⟨0, n⟩, stack⟩) hs selected
  have hcount : theme.resolveStack stack.path =
      AttributeSet.ofList (stack.reverse.flatMap fun s => s.style.attributes.items) := by
    rw [← hs.merged_eq, stack.merged_eq_ofList]
  have hiff := writeOnce_ofList_iff (stack.reverse.flatMap fun s => s.style.attributes.items) key
  unfold Agrees
  simp only [apply_single, hwrites, hcount]
  refine ⟨hiff.trans ?_, fun hkey => hiff.2 fun a _ b _ => ThemeAttribute.Writes.of_kind_eq hkey⟩
  simp only [List.mem_flatMap, List.mem_reverse]
  exact ⟨fun hall s hmem a ha => hall a ⟨s, hmem, ha⟩, fun hall a ⟨s, hmem, ha⟩ => hall s hmem a ha⟩

/-- A theme with a plain background, and a rounded one for comments. -/
def roundedTheme : Theme :=
  ⟨"rounded", [
    { scope := ⟨rootScope⟩, attributes := [.backgroundColor ⟨255, 255, 255, 255⟩ .none .text] },
    { scope := ⟨"comment"⟩, attributes := [.backgroundColor ⟨255, 0, 0, 255⟩ .full .text] }],
    by decide⟩

/-- The scopes of a comment. -/
def commentStack : ScopeStack :=
  let root := Scope.inside roundedTheme 0 (some ⟨rootScope⟩) []
  [Scope.inside roundedTheme 1 (some ⟨"comment"⟩) [root], root]

/-- The stack of the comment has the styles of the theme. -/
theorem styled_commentStack : commentStack.Styled roundedTheme :=
  ScopeStack.styled_cons.2 ⟨Scope.styledIn_inside _ _ _ _,
    ScopeStack.styled_cons.2 ⟨Scope.styledIn_inside _ _ _ _, ScopeStack.styled_nil _⟩⟩

/-- The rounded background of a comment is the one that counts, and there is no other rounded one.
-/
theorem apply_agrees_rounded :
    (apply ⟨[⟨⟨0, 1⟩, commentStack⟩]⟩ (.ofString "x") 0 false true).get? .roundedBackground 0 =
      (writeOnce (roundedTheme.resolveStack commentStack.path).items (.ofString "x") ⟨0, 1⟩).get?
        .roundedBackground 0 := by
  have hplain : roundedTheme.Plain := by unfold Theme.Plain; decide +kernel
  refine (apply_agrees_iff hplain styled_commentStack false .roundedBackground).1.2 ?_ _
    (.ofChars _) 0 1 0 (Nat.le_refl 0) (by decide)
  decide +kernel

/-- **Inside of a plain background a rounded one leaves the plain one there**, which does not
count. -/
theorem apply_disagrees_rounded :
    roundedTheme.Plain ∧ commentStack.Styled roundedTheme ∧
      (apply ⟨[⟨⟨0, 1⟩, commentStack⟩]⟩ (.ofString "x") 0 false true).get? .background 0 =
        some (.background ⟨255, 255, 255, 255⟩) ∧
      (writeOnce (roundedTheme.resolveStack commentStack.path).items (.ofString "x") ⟨0, 1⟩).get?
        .background 0 = none :=
  ⟨by unfold Theme.Plain; decide +kernel, styled_commentStack, by decide +kernel,
    by decide +kernel⟩

end TokenLine

end ScopePaint
