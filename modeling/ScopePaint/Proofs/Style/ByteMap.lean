import ScopePaint.Proofs.Style.StretchEnds

/-!
# Styled texts as maps of bytes

A styled text keeps its values on stretches, and cuts, trims and moves these with each edit. What it
stands for is plainer: a value of each kind for each of its bytes (`ByteMap`), where an edit changes
the bytes of its range that the text has by then and nothing else. Each edit of a text comes to the
same as that edit of the map (`StyledText.Refines.edit`), so any edits do, wherever their ranges lie
(`StyledText.edits_refine`).
-/

set_option autoImplicit false

namespace ScopePaint

open Text (Span byteLength)

/-- What can be done to a styled text. -/
inductive Edit where
  | set (range : Span) (value : StyleValue)
  | remove (key : StyleKey) (range : Span)
  | clear (range : Span)
  | append (text : List Char)

/-- How long a text is, and the value of each kind of styling at each of its bytes. -/
structure ByteMap where
  length : Nat
  value : StyleKey → Nat → Option StyleValue

namespace ByteMap

/-- A text without styling. -/
def ofChars (cs : List Char) : ByteMap := ⟨byteLength cs, fun _ _ => none⟩

/-- Change the values of some kinds at the bytes of a range that the text has. -/
def update (m : ByteMap) (keys : StyleKey → Bool) (r : Span) (v : Option StyleValue) : ByteMap :=
  { m with value := fun key offset =>
      if keys key ∧ r.start ≤ offset ∧ offset < r.stop ∧ offset < m.length then v
      else m.value key offset }

/-- Make an edit. -/
def edit (m : ByteMap) : Edit → ByteMap
  | .set r v => m.update (v.key = ·) r (some v)
  | .remove key r => m.update (· = key) r none
  | .clear r => m.update (fun _ => true) r none
  | .append cs => { m with length := m.length + byteLength cs }

end ByteMap

namespace StyledText

/-- Make an edit. -/
def edit (t : StyledText) : Edit → StyledText
  | .set r v => t.set r v
  | .remove key r => t.remove key r
  | .clear r => t.clear r
  | .append cs => t.append cs

/-- A text that can be written, with the length and the values of a map. -/
structure Refines (t : StyledText) (m : ByteMap) : Prop where
  written : t.Written
  length : t.length = m.length
  value : ∀ key offset, t.get? key offset = m.value key offset

variable {t : StyledText} {m : ByteMap}

/-- Text without styles refines the map without values. -/
theorem refines_ofChars (cs : List Char) : (ofChars cs).Refines (.ofChars cs) where
  written := .ofChars cs
  length := rfl
  value := fun _ _ => rfl

/-- The bytes of a clamped range are those that an edit of the map changes. -/
theorem Refines.contains_clamp_iff (h : t.Refines m) (r : Span) (offset : Nat) :
    (t.clamp r).contains offset = true ↔
      r.start ≤ offset ∧ offset < r.stop ∧ offset < m.length := by
  rw [contains_clamp, h.length]

/-- **An edit of a text does what it does to the map.** -/
theorem Refines.edit (h : t.Refines m) (e : Edit) : (t.edit e).Refines (m.edit e) := by
  have hordered := h.written.ordered
  cases e with
  | set r v =>
    refine ⟨h.written.set r v, (length_set t r v).trans h.length, fun key offset => ?_⟩
    show (t.set r v).get? key offset = (m.update _ r (some v)).value key offset
    rw [get?_set hordered]
    simp only [ByteMap.update, h.contains_clamp_iff, h.value, decide_eq_true_eq]
  | remove removed r =>
    refine ⟨h.written.remove removed r, h.length, fun key offset => ?_⟩
    show (t.remove removed r).get? key offset = (m.update _ r none).value key offset
    rw [get?_remove hordered]
    simp only [ByteMap.update, h.contains_clamp_iff, h.value, decide_eq_true_eq]
  | clear r =>
    refine ⟨h.written.clear r, (length_clear t r).trans h.length, fun key offset => ?_⟩
    show (t.clear r).get? key offset = (m.update _ r none).value key offset
    rw [get?_clear hordered]
    simp only [ByteMap.update, h.contains_clamp_iff, h.value, true_and]
  | append cs =>
    refine ⟨h.written.append cs, ?_, h.value⟩
    show (t.append cs).length = m.length + byteLength cs
    rw [length_append, h.length]

/-- **Any edits of a text do what they do to the map.** -/
theorem Refines.edits (h : t.Refines m) (es : List Edit) :
    (es.foldl StyledText.edit t).Refines (es.foldl ByteMap.edit m) := by
  induction es generalizing t m with
  | nil => exact h
  | cons e es ih => exact ih (h.edit e)

/-- **A styled text refines a map of bytes.** After any edits of any text, with whatever ranges, the
stretches of each kind of styling are not empty, lie in order without overlaps and inside of the
text; and the values that are found are those of the map after the same edits. -/
theorem edits_refine (cs : List Char) (es : List Edit) :
    let t := es.foldl StyledText.edit (ofChars cs)
    let m := es.foldl ByteMap.edit (ByteMap.ofChars cs)
    (∀ key,
      (∀ s ∈ t.layer key, s.range.start < s.range.stop ∧ s.range.stop ≤ t.length) ∧
      (t.layer key).Pairwise fun s s' => s.range.stop ≤ s'.range.start) ∧
    t.length = m.length ∧ ∀ key offset, t.get? key offset = m.value key offset := by
  intro t m
  have h : t.Refines m := (refines_ofChars cs).edits es
  refine ⟨fun key => ⟨fun s hs => ⟨?_, ?_⟩, ?_⟩, h.length, h.value⟩
  · exact (h.written.ordered key).nonempty s hs
  · exact (h.written.inside key s hs).2
  · exact (h.written.ordered key).inOrder

end StyledText

end ScopePaint
