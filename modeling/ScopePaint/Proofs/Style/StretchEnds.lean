import ScopePaint.Proofs.Style.Layers
import ScopePaint.Proofs.Text.Boundary

/-!
# Where stretches end

Stretches are cut and put at the ends of clamped ranges only. So what holds of all ends of stretches
goes on holding if it holds of the ends of the next range (`StyledText.EndsIn.set`,
`StyledText.EndsIn.remove`, `StyledText.EndsIn.clear`). In this way the stretches of every text that
can be written lie inside of it (`StyledText.Written.inside`), and those of a text that was only
written between characters end between characters (`StyledText.Aligned`).
-/

set_option autoImplicit false

namespace ScopePaint

open Text (Span IsBoundary)

namespace Layer

variable {p : Nat → Prop} {l : Layer} {r : Span}

/-- Both ends of all stretches have a property. -/
def EndsIn (p : Nat → Prop) (l : Layer) : Prop := ∀ s ∈ l, p s.range.start ∧ p s.range.stop

/-- Cutting at ends that are allowed keeps the ends of a layer allowed. -/
theorem EndsIn.cut (h : l.EndsIn p) (hstart : p r.start) (hstop : p r.stop) :
    (Layer.cut r l).EndsIn p := by
  intro t ht
  obtain ⟨s, hs, ht⟩ := List.mem_flatMap.1 ht
  have hends := h s hs
  unfold cutStretch at ht
  split at ht
  · obtain rfl := List.mem_singleton.1 ht
    exact hends
  · rcases List.mem_append.1 ht with ht | ht
    · split at ht
      · obtain rfl := List.mem_singleton.1 ht
        exact ⟨hends.1, hstart⟩
      · exact absurd ht List.not_mem_nil
    · split at ht
      · obtain rfl := List.mem_singleton.1 ht
        exact ⟨hstop, hends.2⟩
      · exact absurd ht List.not_mem_nil

/-- So does putting a stretch between such ends. -/
theorem EndsIn.put (h : l.EndsIn p) (hstart : p r.start) (hstop : p r.stop) (v : StyleValue) :
    (Layer.put r v l).EndsIn p := by
  intro s hs
  rcases mem_put.1 hs with rfl | hs
  · exact ⟨hstart, hstop⟩
  · exact h.cut hstart hstop s hs

end Layer

namespace StyledText

variable {p q : Nat → Prop} {t : StyledText} {r : Span}

/-- Both ends of all stretches of a text have a property. -/
def EndsIn (p : Nat → Prop) (t : StyledText) : Prop := ∀ key, (t.layer key).EndsIn p

/-- There are no ends in text without styles. -/
theorem endsIn_ofChars (p : Nat → Prop) (cs : List Char) : (ofChars cs).EndsIn p :=
  fun _ _ hs => absurd hs List.not_mem_nil

/-- Ends that are allowed are allowed more loosely. -/
theorem EndsIn.imp (h : t.EndsIn p) (hpq : ∀ n, p n → q n) : t.EndsIn q :=
  fun key s hs => ⟨hpq _ (h key s hs).1, hpq _ (h key s hs).2⟩

/-- The ends of a text stay allowed if those of the layer that is changed do. -/
theorem EndsIn.modifyLayer (h : t.EndsIn p) {key : StyleKey} {f : Layer → Layer}
    (hf : ∀ l : Layer, l.EndsIn p → (f l).EndsIn p) : (t.modifyLayer key f).EndsIn p := by
  intro other
  rw [layer_modifyLayer]
  split
  · exact hf _ (h key)
  · exact h other

/-- Setting a value between allowed ends keeps the ends of a text allowed. -/
theorem EndsIn.set (h : t.EndsIn p) (hstart : p (t.clamp r).start) (hstop : p (t.clamp r).stop)
    (v : StyleValue) : (t.set r v).EndsIn p := by
  unfold StyledText.set
  dsimp only
  split
  · exact h
  · exact h.modifyLayer fun l hl => hl.put hstart hstop v

/-- So does removing one. -/
theorem EndsIn.remove (h : t.EndsIn p) (hstart : p (t.clamp r).start) (hstop : p (t.clamp r).stop)
    (key : StyleKey) : (t.remove key r).EndsIn p :=
  h.modifyLayer fun _ hl => hl.cut hstart hstop

/-- So does clearing. -/
theorem EndsIn.clear (h : t.EndsIn p) (hstart : p (t.clamp r).start)
    (hstop : p (t.clamp r).stop) : (t.clear r).EndsIn p := by
  intro key
  rw [layer_clear]
  split
  · exact h key
  · exact (h key).cut hstart hstop

/-! ## Inside of the text -/

/-- A range that is cut down to the text does not reach behind it. -/
theorem stop_clamp_le (t : StyledText) (r : Span) : (t.clamp r).stop ≤ t.length :=
  Nat.min_le_right _ _

/-- Setting a value keeps the length. -/
theorem length_set (t : StyledText) (r : Span) (v : StyleValue) : (t.set r v).length = t.length :=
  congrArg Text.byteLength (text_set t r v)

/-- Clearing keeps the length. -/
theorem length_clear (t : StyledText) (r : Span) : (t.clear r).length = t.length :=
  congrArg Text.byteLength (text_clear t r)

/-- Appending adds the length of what is appended. -/
theorem length_append (t : StyledText) (cs : List Char) :
    (t.append cs).length = t.length + Text.byteLength cs :=
  Text.byteLength_append t.text cs

/-- **The stretches of a text that can be written lie inside of it.** -/
theorem Written.inside (h : t.Written) : t.EndsIn (· ≤ t.length) := by
  have hclamp : ∀ (t : StyledText) (r : Span), (t.clamp r).start ≤ t.length :=
    fun t r => (start_clamp_le t r).trans (stop_clamp_le t r)
  induction h with
  | ofChars cs => exact endsIn_ofChars _ cs
  | @set t r v _ ih =>
    rw [length_set]
    exact ih.set (hclamp t r) (stop_clamp_le t r) v
  | @remove t key r _ ih => exact EndsIn.remove ih (hclamp t r) (stop_clamp_le t r) key
  | @clear t r _ ih =>
    rw [length_clear]
    exact ih.clear (hclamp t r) (stop_clamp_le t r)
  | @append t cs _ ih =>
    refine EndsIn.imp (t := t.append cs) ih fun n hn => ?_
    rw [length_append]
    exact hn.trans (Nat.le_add_right _ _)

/-- Behind its end a text has no styling. -/
theorem Written.get?_eq_none (h : t.Written) {offset : Nat} (hend : t.length ≤ offset)
    (key : StyleKey) : t.get? key offset = none := by
  apply Option.eq_none_iff_forall_ne_some.2
  intro v hv
  obtain ⟨s, hs, hin, -⟩ := (h.ordered key).get?_eq_some_iff.1 hv
  have hstop : s.range.stop ≤ t.length := (h.inside key s hs).2
  have hoffset := (Text.Span.contains_iff.1 hin).2
  omega

/-! ## Between characters -/

/-- All stretches end between characters. -/
def Aligned (t : StyledText) : Prop := t.EndsIn (IsBoundary t.text)

/-- Text without styles is aligned. -/
theorem aligned_ofChars (cs : List Char) : (ofChars cs).Aligned := endsIn_ofChars _ cs

/-- A range between characters stays so when it is clamped. -/
theorem isBoundary_clamp (hstart : IsBoundary t.text r.start) (hstop : IsBoundary t.text r.stop) :
    IsBoundary t.text (t.clamp r).start ∧ IsBoundary t.text (t.clamp r).stop := by
  have hclamp : (t.clamp r).stop = r.stop := Nat.min_eq_left hstop.le
  refine ⟨?_, hclamp ▸ hstop⟩
  show IsBoundary t.text (min r.start (t.clamp r).stop)
  rw [hclamp]
  rcases Nat.le_total r.start r.stop with hle | hle
  · rwa [Nat.min_eq_left hle]
  · rwa [Nat.min_eq_right hle]

/-- Setting a value between characters keeps a text aligned. -/
theorem Aligned.set (h : t.Aligned) (hstart : IsBoundary t.text r.start)
    (hstop : IsBoundary t.text r.stop) (v : StyleValue) : (t.set r v).Aligned := by
  have hclamp := isBoundary_clamp hstart hstop
  unfold Aligned
  rw [text_set]
  exact EndsIn.set h hclamp.1 hclamp.2 v

/-- So does clearing between characters. -/
theorem Aligned.clear (h : t.Aligned) (hstart : IsBoundary t.text r.start)
    (hstop : IsBoundary t.text r.stop) : (t.clear r).Aligned := by
  have hclamp := isBoundary_clamp hstart hstop
  unfold Aligned
  rw [text_clear]
  exact EndsIn.clear h hclamp.1 hclamp.2

/-- What lies between characters still does when text is appended. -/
theorem Aligned.append (h : t.Aligned) (cs : List Char) : (t.append cs).Aligned := by
  refine EndsIn.imp (t := t.append cs) h fun n hn => ?_
  obtain ⟨before, after, hsplit, hlength⟩ := hn
  refine ⟨before, after ++ cs, ?_, hlength⟩
  show t.text ++ cs = _
  rw [hsplit, List.append_assoc]

end StyledText

end ScopePaint
