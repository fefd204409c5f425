import Mathlib.Data.List.TakeWhile
import ScopePaint.Proofs.Tables
import ScopePaint.Style.StyledText

/-!
# What writing on a styled text leaves at an offset

The stretches of a layer are not empty and lie in order, and cutting and putting keep them so
(`Layer.Ordered`). What a layer holds at an offset is then told by its members alone, which makes
each operation one on single offsets: what is put on a range is found in it and nowhere else
(`Layer.get?_put`), and nothing is found where something was cut (`Layer.get?_cut`). The same goes
for all layers of the texts that can be written (`StyledText.Written`).
-/

set_option autoImplicit false

namespace ScopePaint

open Text (Span)

/-- A range contains the offsets from its start up to, but not at, its stop. -/
theorem Text.Span.contains_iff {r : Span} {offset : Nat} :
    r.contains offset = true ↔ r.start ≤ offset ∧ offset < r.stop := by
  simp [Span.contains]

namespace Layer

variable {l : Layer} {r : Span} {v : StyleValue} {offset : Nat}

/-- Stretches that are not empty and lie in order. -/
structure Ordered (l : Layer) : Prop where
  nonempty : ∀ s ∈ l, s.range.start < s.range.stop
  inOrder : l.Pairwise fun s t => s.range.stop ≤ t.range.start

/-- A layer has a stretch with a value around an offset. -/
def Holds (l : Layer) (offset : Nat) (v : StyleValue) : Prop :=
  ∃ s ∈ l, s.range.contains offset = true ∧ s.value = v

/-- A layer without stretches is ordered. -/
theorem ordered_nil : Ordered [] := ⟨by simp, .nil⟩

/-- A stretch in front of a layer is not empty and ends before the others start. -/
theorem ordered_cons {s : Stretch} :
    Ordered (s :: l) ↔
      s.range.start < s.range.stop ∧ (∀ t ∈ l, s.range.stop ≤ t.range.start) ∧ Ordered l := by
  refine ⟨fun h => ?_, fun ⟨hs, hl, h⟩ => ?_⟩
  · obtain ⟨hs, hl⟩ := List.forall_mem_cons.1 h.nonempty
    obtain ⟨hfirst, hrest⟩ := List.pairwise_cons.1 h.inOrder
    exact ⟨hs, hfirst, hl, hrest⟩
  · exact ⟨List.forall_mem_cons.2 ⟨hs, h.nonempty⟩, List.pairwise_cons.2 ⟨hl, h.inOrder⟩⟩

/-- A value is looked up in the first stretch that does not end before it. -/
theorem get?_cons (s : Stretch) (l : Layer) (offset : Nat) :
    get? offset (s :: l) =
      if s.range.stop ≤ offset then get? offset l
      else if s.range.contains offset then some s.value else none := by
  unfold get?
  rw [List.dropWhile_cons]
  by_cases hstop : s.range.stop ≤ offset
  · simp [hstop]
  · simp [hstop]

/-- **The value at an offset** is that of the stretch around it. -/
theorem Ordered.get?_eq_some_iff (h : l.Ordered) : get? offset l = some v ↔ l.Holds offset v := by
  induction l with
  | nil => simp [get?, Holds]
  | cons s l ih =>
    obtain ⟨hs, hrest, hl⟩ := ordered_cons.1 h
    rw [get?_cons]
    have hcons : Holds (s :: l) offset v ↔
        (s.range.contains offset = true ∧ s.value = v) ∨ Holds l offset v := by
      simp [Holds]
    rw [hcons]
    by_cases hstop : s.range.stop ≤ offset
    · rw [if_pos hstop, ih hl, Span.contains_iff]
      exact ⟨Or.inr, fun hor => hor.resolve_left fun hin => by omega⟩
    · have hnone : ¬ Holds l offset v := by
        rintro ⟨t, ht, hin, -⟩
        have hafter := hrest t ht
        rw [Span.contains_iff] at hin
        omega
      rw [if_neg hstop, or_iff_left hnone]
      by_cases hin : s.range.contains offset = true
      · rw [if_pos hin]
        simp [hin]
      · rw [if_neg hin]
        simp [hin]

/-- Two layers hold the same at an offset if they have the same stretches around it. -/
theorem Ordered.get?_eq_of_iff {l' : Layer} {offset' : Nat} (h : l.Ordered) (h' : l'.Ordered)
    (hiff : ∀ v, l.Holds offset v ↔ l'.Holds offset' v) : get? offset l = get? offset' l' := by
  apply Option.ext
  intro v
  rw [h.get?_eq_some_iff, h'.get?_eq_some_iff, hiff]

/-! ## Cutting -/

/-- What is left of a stretch is what of it lies outside of the range. -/
theorem holds_cutStretch {s : Stretch} :
    Holds (cutStretch r s) offset v ↔
      s.range.contains offset = true ∧ s.value = v ∧ ¬ r.contains offset = true := by
  unfold cutStretch Holds
  simp only [Span.contains_iff]
  split
  · simp only [List.mem_singleton, exists_eq_left]
    refine ⟨fun ⟨hin, hv⟩ => ⟨hin, hv, ?_⟩, fun ⟨hin, hv, _⟩ => ⟨hin, hv⟩⟩
    omega
  · constructor
    · rintro ⟨t, ht, hin, hv⟩
      rw [List.mem_append] at ht
      rcases ht with ht | ht
      · split at ht
        · obtain rfl := List.mem_singleton.1 ht
          dsimp only at hin
          exact ⟨by omega, hv, by omega⟩
        · exact absurd ht List.not_mem_nil
      · split at ht
        · obtain rfl := List.mem_singleton.1 ht
          dsimp only at hin
          exact ⟨by omega, hv, by omega⟩
        · exact absurd ht List.not_mem_nil
    · rintro ⟨hin, hv, hout⟩
      by_cases hbefore : offset < r.start
      · refine ⟨⟨⟨s.range.start, r.start⟩, s.value⟩, ?_, ⟨hin.1, hbefore⟩, hv⟩
        rw [if_pos (by omega)]
        exact List.mem_append_left _ List.mem_cons_self
      · refine ⟨⟨⟨r.stop, s.range.stop⟩, s.value⟩, ?_, ⟨by dsimp only; omega, hin.2⟩, hv⟩
        rw [if_pos (show r.stop < s.range.stop by omega)]
        exact List.mem_append_right _ List.mem_cons_self

/-- Cutting leaves what a layer holds outside of the range. -/
theorem holds_cut : Holds (cut r l) offset v ↔ l.Holds offset v ∧ ¬ r.contains offset = true := by
  have hflat : Holds (cut r l) offset v ↔ ∃ s ∈ l, Holds (cutStretch r s) offset v := by
    unfold cut Holds
    simp only [List.mem_flatMap]
    exact ⟨fun ⟨t, ⟨s, hs, ht⟩, hin⟩ => ⟨s, hs, t, ht, hin⟩,
      fun ⟨s, hs, t, ht, hin⟩ => ⟨t, ⟨s, hs, ht⟩, hin⟩⟩
  rw [hflat]
  simp only [holds_cutStretch]
  exact ⟨fun ⟨s, hs, hin, hv, hout⟩ => ⟨⟨s, hs, hin, hv⟩, hout⟩,
    fun ⟨⟨s, hs, hin, hv⟩, hout⟩ => ⟨s, hs, hin, hv, hout⟩⟩

/-- What is left of a stretch lies inside of it and outside of the range, and is not empty. -/
theorem of_mem_cutStretch {s t : Stretch} (h : t ∈ cutStretch r s)
    (hs : s.range.start < s.range.stop) :
    t.range.start < t.range.stop ∧ s.range.start ≤ t.range.start ∧ t.range.stop ≤ s.range.stop ∧
      (t.range.stop ≤ r.start ∨ r.stop ≤ t.range.start) := by
  unfold cutStretch at h
  split at h
  · obtain rfl := List.mem_singleton.1 h
    omega
  · rcases List.mem_append.1 h with h | h
    · split at h
      · obtain rfl := List.mem_singleton.1 h
        dsimp only
        omega
      · exact absurd h List.not_mem_nil
    · split at h
      · obtain rfl := List.mem_singleton.1 h
        dsimp only
        omega
      · exact absurd h List.not_mem_nil

/-- The parts that are left of a stretch are in order. -/
theorem pairwise_cutStretch (hr : r.start ≤ r.stop) (s : Stretch) :
    (cutStretch r s).Pairwise fun s t => s.range.stop ≤ t.range.start := by
  unfold cutStretch
  split
  · exact List.pairwise_singleton _ _
  · split
    · split
      · simpa using hr
      · simp
    · split <;> simp

/-- Cutting keeps a layer ordered. -/
theorem Ordered.cut (h : l.Ordered) (hr : r.start ≤ r.stop) : (Layer.cut r l).Ordered where
  nonempty := by
    intro t ht
    obtain ⟨s, hs, ht⟩ := List.mem_flatMap.1 ht
    exact (of_mem_cutStretch ht (h.nonempty s hs)).1
  inOrder := by
    refine List.pairwise_flatMap.2 ⟨fun s _ => pairwise_cutStretch hr s, ?_⟩
    refine h.inOrder.imp_of_mem fun {s s'} hs hs' hle t ht t' ht' => ?_
    have hin := of_mem_cutStretch ht (h.nonempty s hs)
    have hin' := of_mem_cutStretch ht' (h.nonempty s' hs')
    omega

/-- In a range that is cut out there is nothing, and outside of it what there was. -/
theorem get?_cut (h : l.Ordered) (hr : r.start ≤ r.stop) (offset : Nat) :
    get? offset (cut r l) = if r.contains offset then none else get? offset l := by
  by_cases hin : r.contains offset = true
  · rw [if_pos hin]
    apply Option.eq_none_iff_forall_ne_some.2
    intro v hv
    rw [(h.cut hr).get?_eq_some_iff, holds_cut] at hv
    exact hv.2 hin
  · rw [if_neg hin]
    exact (h.cut hr).get?_eq_of_iff h fun v => by rw [holds_cut, and_iff_left hin]

/-! ## Putting -/

/-- What is left behind the first elements that are taken is what is not dropped. -/
theorem drop_length_takeWhile {α : Type} (p : α → Bool) (xs : List α) :
    xs.drop (xs.takeWhile p).length = xs.dropWhile p := by
  induction xs with
  | nil => rfl
  | cons x xs ih =>
    rw [List.takeWhile_cons, List.dropWhile_cons]
    cases p x with
    | true => exact ih
    | false => rfl

/-- The stretches that begin before the range, the new one, and the others. -/
theorem put_eq (r : Span) (v : StyleValue) (l : Layer) :
    put r v l = (cut r l).takeWhile (fun s => s.range.start < r.start) ++
      ⟨r, v⟩ :: (cut r l).dropWhile fun s => s.range.start < r.start := by
  unfold put
  dsimp only
  rw [drop_length_takeWhile]

/-- A stretch that is put in stands beside what is left of the others. -/
theorem mem_put {s : Stretch} : s ∈ put r v l ↔ s = ⟨r, v⟩ ∨ s ∈ cut r l := by
  have hsplit : s ∈ cut r l ↔
      s ∈ (cut r l).takeWhile (fun s => s.range.start < r.start) ∨
        s ∈ (cut r l).dropWhile fun s => s.range.start < r.start := by
    rw [← List.mem_append, List.takeWhile_append_dropWhile]
  rw [put_eq, hsplit, List.mem_append, List.mem_cons]
  exact or_left_comm

/-- A layer holds a value that is put in in its range, and outside of it what it held. -/
theorem holds_put {w : StyleValue} :
    Holds (put r v l) offset w ↔ (r.contains offset = true ∧ v = w) ∨ Holds (cut r l) offset w := by
  unfold Holds
  simp only [mem_put]
  constructor
  · rintro ⟨s, rfl | hs, hin, hw⟩
    · exact Or.inl ⟨hin, hw⟩
    · exact Or.inr ⟨s, hs, hin, hw⟩
  · rintro (⟨hin, hw⟩ | ⟨s, hs, hin, hw⟩)
    · exact ⟨⟨r, v⟩, Or.inl rfl, hin, hw⟩
    · exact ⟨s, Or.inr hs, hin, hw⟩

/-- In an ordered list, all from the first stretch on that does not begin before a place do not
begin before it. -/
theorem start_le_of_mem_dropWhile (h : l.Ordered) {n : Nat} {s : Stretch}
    (hs : s ∈ l.dropWhile fun s => s.range.start < n) : n ≤ s.range.start := by
  induction l with
  | nil => exact absurd hs List.not_mem_nil
  | cons t l ih =>
    obtain ⟨ht, hrest, hl⟩ := ordered_cons.1 h
    rw [List.dropWhile_cons] at hs
    split at hs
    · exact ih hl hs
    · rename_i hstart
      have hstart : n ≤ t.range.start := by simpa using hstart
      rcases List.mem_cons.1 hs with rfl | hs
      · exact hstart
      · have hafter := hrest s hs
        omega

/-- Putting a stretch in keeps a layer ordered. -/
theorem Ordered.put (h : l.Ordered) (hr : r.start < r.stop) (v : StyleValue) :
    (Layer.put r v l).Ordered := by
  have hcut := h.cut (Nat.le_of_lt hr)
  have houtside : ∀ s ∈ Layer.cut r l, s.range.stop ≤ r.start ∨ r.stop ≤ s.range.start := by
    intro s hs
    obtain ⟨t, ht, hs⟩ := List.mem_flatMap.1 hs
    exact (of_mem_cutStretch hs (h.nonempty t ht)).2.2.2
  have hbefore : ∀ s ∈ (Layer.cut r l).takeWhile (fun s => s.range.start < r.start),
      s.range.stop ≤ r.start := by
    intro s hs
    have hmem := List.takeWhile_subset _ hs
    have hstart : s.range.start < r.start := by simpa using List.mem_takeWhile_imp hs
    rcases houtside s hmem with hout | hout
    · exact hout
    · omega
  have hbehind : ∀ s ∈ (Layer.cut r l).dropWhile (fun s => s.range.start < r.start),
      r.stop ≤ s.range.start := by
    intro s hs
    have hmem := (List.dropWhile_sublist _).subset hs
    have hstart := start_le_of_mem_dropWhile hcut hs
    have hnonempty := hcut.nonempty s hmem
    rcases houtside s hmem with hout | hout
    · omega
    · exact hout
  refine ⟨fun s hs => ?_, ?_⟩
  · rcases mem_put.1 hs with rfl | hs
    · exact hr
    · exact hcut.nonempty s hs
  · rw [put_eq]
    refine List.pairwise_append.2 ⟨hcut.inOrder.sublist (List.takeWhile_sublist _), ?_, ?_⟩
    · exact List.pairwise_cons.2 ⟨hbehind, hcut.inOrder.sublist (List.dropWhile_sublist _)⟩
    · intro s hs t ht
      have hs := hbefore s hs
      rcases List.mem_cons.1 ht with rfl | ht
      · exact hs
      · have ht := hbehind t ht
        omega

/-- Its value is found in its range, and outside of it what was found before. -/
theorem get?_put (h : l.Ordered) (hr : r.start < r.stop) (v : StyleValue) (offset : Nat) :
    get? offset (put r v l) = if r.contains offset then some v else get? offset l := by
  apply Option.ext
  intro w
  rw [(h.put hr v).get?_eq_some_iff, holds_put, holds_cut]
  by_cases hin : r.contains offset = true
  · simp [hin]
  · simp only [hin]
    rw [if_neg (by simp), h.get?_eq_some_iff]
    simp

end Layer

/-! ## Texts that can be written -/

namespace StyledText

/-- The texts that can be written: those without styling, and what becomes of them. -/
inductive Written : StyledText → Prop
  | ofChars (cs : List Char) : Written (.ofChars cs)
  | set {t : StyledText} (r : Span) (v : StyleValue) (h : Written t) : Written (t.set r v)
  | remove {t : StyledText} (key : StyleKey) (r : Span) (h : Written t) : Written (t.remove key r)
  | clear {t : StyledText} (r : Span) (h : Written t) : Written (t.clear r)
  | append {t : StyledText} (cs : List Char) (h : Written t) : Written (t.append cs)

/-- All layers of a text are ordered. -/
def Ordered (t : StyledText) : Prop := ∀ key, (t.layer key).Ordered

variable {t : StyledText} {r : Span} {v : StyleValue} {key : StyleKey} {offset : Nat}

/-- A range that is cut down to the text does not end before it starts. -/
theorem start_clamp_le (t : StyledText) (r : Span) : (t.clamp r).start ≤ (t.clamp r).stop :=
  Nat.min_le_right _ _

/-- Changing a layer changes no other one. -/
theorem layer_modifyLayer (t : StyledText) (key other : StyleKey) (f : Layer → Layer) :
    (t.modifyLayer key f).layer other = if other = key then f (t.layer key) else t.layer other := by
  unfold modifyLayer layer
  dsimp only
  by_cases hkey : other = key
  · rw [if_pos hkey, hkey, List.lookup_cons_self, Option.getD_some]
  · rw [if_neg hkey, List.lookup_cons, beq_eq_false_iff_ne.2 hkey]
    rw [lookup_filter_ne hkey]

/-- A text stays ordered if the layer that is changed does. -/
theorem Ordered.modifyLayer (h : t.Ordered) {f : Layer → Layer}
    (hf : ∀ l : Layer, l.Ordered → (f l).Ordered) : (t.modifyLayer key f).Ordered := by
  intro other
  rw [layer_modifyLayer]
  split
  · exact hf _ (h key)
  · exact h other

/-- Clearing cuts the range out of each layer unless it is empty. -/
theorem layer_clear (t : StyledText) (r : Span) (key : StyleKey) :
    (t.clear r).layer key =
      if (t.clamp r).isEmpty then t.layer key else Layer.cut (t.clamp r) (t.layer key) := by
  unfold clear
  dsimp only
  split
  · rfl
  · unfold layer
    rw [lookup_map_snd]
    cases t.layers.lookup key <;> rfl

/-- A range that is not empty starts before it ends. -/
theorem start_lt_of_not_isEmpty (h : ¬ r.isEmpty = true) : r.start < r.stop := by
  simpa [Span.isEmpty] using h

/-- An empty range contains nothing. -/
theorem not_contains_of_isEmpty (h : r.isEmpty = true) : ¬ r.contains offset = true := by
  have hle : r.stop ≤ r.start := by simpa [Span.isEmpty] using h
  rw [Span.contains_iff]
  omega

/-- Setting a value keeps a text ordered. -/
theorem Ordered.set (h : t.Ordered) (r : Span) (v : StyleValue) : (t.set r v).Ordered := by
  unfold StyledText.set
  dsimp only
  split
  · exact h
  · rename_i hempty
    exact h.modifyLayer fun l hl => hl.put (start_lt_of_not_isEmpty hempty) v

/-- Clearing keeps a text ordered. -/
theorem Ordered.clear (h : t.Ordered) (r : Span) : (t.clear r).Ordered := by
  intro key
  rw [layer_clear]
  split
  · exact h key
  · exact (h key).cut (start_clamp_le t r)

/-- **All texts that can be written are ordered.** -/
theorem Written.ordered (h : t.Written) : t.Ordered := by
  induction h with
  | ofChars cs => exact fun key => Layer.ordered_nil
  | set r v _ ih => exact ih.set r v
  | remove key r _ ih => exact ih.modifyLayer fun l hl => hl.cut (start_clamp_le _ r)
  | clear r _ ih => exact ih.clear r
  | append cs _ ih => exact ih

/-- **A value that is set is found in its range, under its own kind.** -/
theorem get?_set (h : t.Ordered) (r : Span) (v : StyleValue) (key : StyleKey) (offset : Nat) :
    (t.set r v).get? key offset =
      if v.key = key ∧ (t.clamp r).contains offset then some v else t.get? key offset := by
  unfold set
  dsimp only
  split
  · rename_i hempty
    rw [if_neg fun hin => not_contains_of_isEmpty hempty hin.2]
  · rename_i hempty
    have hr := start_lt_of_not_isEmpty hempty
    unfold get?
    rw [layer_modifyLayer]
    by_cases hkey : key = v.key
    · rw [if_pos hkey, Layer.get?_put (h v.key) hr, hkey]
      simp
    · rw [if_neg hkey, if_neg fun hin => hkey hin.1.symm]

/-- **Nothing is found in a range that was cleared.** -/
theorem get?_clear (h : t.Ordered) (r : Span) (key : StyleKey) (offset : Nat) :
    (t.clear r).get? key offset =
      if (t.clamp r).contains offset then none else t.get? key offset := by
  unfold get?
  rw [layer_clear]
  split
  · rename_i hempty
    rw [if_neg (not_contains_of_isEmpty hempty)]
  · exact Layer.get?_cut (h key) (start_clamp_le t r) offset

/-- **Nothing of a kind is found in a range that it was removed from.** -/
theorem get?_remove (h : t.Ordered) (removed : StyleKey) (r : Span) (key : StyleKey)
    (offset : Nat) :
    (t.remove removed r).get? key offset =
      if key = removed ∧ (t.clamp r).contains offset then none else t.get? key offset := by
  unfold get? remove
  rw [layer_modifyLayer]
  by_cases hkey : key = removed
  · rw [if_pos hkey, Layer.get?_cut (h removed) (start_clamp_le t r), hkey]
    simp
  · rw [if_neg hkey, if_neg fun hin => hkey hin.1]

/-- A clamped range has the bytes of the range that the text has. -/
theorem contains_clamp (t : StyledText) (r : Span) (offset : Nat) :
    (t.clamp r).contains offset = true ↔
      r.start ≤ offset ∧ offset < r.stop ∧ offset < t.length := by
  rw [Span.contains_iff]
  unfold clamp
  dsimp only
  omega

/-- Setting a value keeps the characters. -/
theorem text_set (t : StyledText) (r : Span) (v : StyleValue) : (t.set r v).text = t.text := by
  unfold set
  dsimp only
  split <;> rfl

/-- Clearing keeps the characters. -/
theorem text_clear (t : StyledText) (r : Span) : (t.clear r).text = t.text := by
  unfold clear
  dsimp only
  split <;> rfl

/-- Ranges are clamped in the same way in the same text. -/
theorem clamp_eq_of_text_eq {t' : StyledText} (h : t.text = t'.text) (r : Span) :
    t.clamp r = t'.clamp r := by
  unfold clamp length
  rw [h]

/-- The values at two places are the same if they are for each key. -/
theorem valuesAt_congr {u : StyledText} {a b : Nat} (h : ∀ key, t.get? key a = u.get? key b) :
    t.valuesAt a = u.valuesAt b := by
  unfold valuesAt
  simp only [h]

end StyledText

end ScopePaint
