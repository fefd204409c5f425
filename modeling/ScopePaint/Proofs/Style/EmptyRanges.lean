import ScopePaint.Proofs.Style.RunPartition

/-!
# Operations on empty ranges

Setting and clearing pass over an empty range. Removing does not: it cuts the stretch around the
range in two (`Layer.cutStretch_of_empty`), so that stretches end where none did before
(`StyledText.mem_bounds_remove`). What is found at each byte stays the same all the same
(`StyledText.valuesAt_remove_of_isEmpty`). So only runs can tell, and they do if and only if the range
that is split into them has the place of the cut inside of it, and no stretch ended there before
(`StyledText.runs?_of_isEmpty`).
-/

set_option autoImplicit false

namespace ScopePaint

open Text (Span IsBoundary slice?)

namespace Layer

variable {l : Layer} {r : Span} {n : Nat}

/-- A stretch of a layer lies around an offset. -/
def Around (l : Layer) (n : Nat) : Prop := ∃ s ∈ l, s.range.start < n ∧ n < s.range.stop

/-- **An empty range cuts the stretch around it in two.** -/
theorem cutStretch_of_empty (h : r.start = r.stop) (s : Stretch) :
    cutStretch r s =
      if s.range.start < r.start ∧ r.start < s.range.stop then
        [⟨⟨s.range.start, r.start⟩, s.value⟩, ⟨⟨r.start, s.range.stop⟩, s.value⟩]
      else [s] := by
  unfold cutStretch
  rw [← h]
  by_cases haround : s.range.start < r.start ∧ r.start < s.range.stop
  · rw [if_neg (by omega), if_pos haround, if_pos haround.1, if_pos haround.2]
    rfl
  · rw [if_pos (by omega), if_neg haround]

/-- Cutting at an empty range leaves the ends of stretches, and adds the place of the cut if a
stretch lies around it. -/
theorem endsAt_cut_of_empty (h : r.start = r.stop) :
    (cut r l).EndsAt n ↔ l.EndsAt n ∨ (n = r.start ∧ l.Around n) := by
  have hstretch : ∀ s : Stretch, EndsAt (cutStretch r s) n ↔
      (n = s.range.start ∨ n = s.range.stop) ∨
        (n = r.start ∧ s.range.start < n ∧ n < s.range.stop) := by
    intro s
    unfold EndsAt
    rw [cutStretch_of_empty h]
    split
    · simp only [List.mem_cons, List.not_mem_nil, or_false, exists_eq_or_imp, exists_eq_left]
      omega
    · simp only [List.mem_singleton, exists_eq_left]
      omega
  have hflat : (cut r l).EndsAt n ↔ ∃ s ∈ l, EndsAt (cutStretch r s) n := by
    unfold cut EndsAt
    simp only [List.mem_flatMap]
    exact ⟨fun ⟨u, ⟨s, hs, hu⟩, hn⟩ => ⟨s, hs, u, hu, hn⟩,
      fun ⟨s, hs, u, hu, hn⟩ => ⟨u, ⟨s, hs, hu⟩, hn⟩⟩
  rw [hflat]
  simp only [hstretch]
  constructor
  · rintro ⟨s, hs, hn | ⟨hn, haround⟩⟩
    · exact .inl ⟨s, hs, hn⟩
    · exact .inr ⟨hn, s, hs, haround⟩
  · rintro (⟨s, hs, hn⟩ | ⟨hn, s, hs, haround⟩)
    · exact ⟨s, hs, .inl hn⟩
    · exact ⟨s, hs, .inr ⟨hn, haround⟩⟩

end Layer

namespace StyledText

variable {t : StyledText} {r q : Span} {n : Nat} {key : StyleKey}

/-- An empty range ends where it starts. -/
theorem start_eq_stop_of_isEmpty (h : (t.clamp r).isEmpty = true) :
    (t.clamp r).start = (t.clamp r).stop := by
  have hle := start_clamp_le t r
  have hge : (t.clamp r).stop ≤ (t.clamp r).start := by simpa [Span.isEmpty] using h
  omega

/-- Setting a value in an empty range does nothing. -/
theorem set_of_isEmpty (h : (t.clamp r).isEmpty = true) (v : StyleValue) : t.set r v = t := by
  unfold set
  dsimp only
  rw [if_pos h]

/-- Neither does clearing an empty range. -/
theorem clear_of_isEmpty (h : (t.clamp r).isEmpty = true) : t.clear r = t := by
  unfold clear
  dsimp only
  rw [if_pos h]

/-! ## Removing -/

/-- Removing over an empty range adds the place of the cut to the ends of stretches, if a stretch of
the kind lies around it. -/
theorem mem_bounds_remove (h : (t.clamp r).isEmpty = true) (key : StyleKey) :
    n ∈ (t.remove key r).bounds ↔
      n ∈ t.bounds ∨ (n = (t.clamp r).start ∧ (t.layer key).Around n) := by
  have hcut := fun l : Layer => Layer.endsAt_cut_of_empty (l := l) (n := n)
    (start_eq_stop_of_isEmpty h)
  rw [mem_bounds, mem_bounds]
  unfold remove
  simp only [layer_modifyLayer]
  constructor
  · rintro ⟨other, hend⟩
    split at hend
    · rcases (hcut _).1 hend with hend | haround
      · exact .inl ⟨key, hend⟩
      · exact .inr haround
    · exact .inl ⟨other, hend⟩
  · rintro (⟨other, hend⟩ | haround)
    · refine ⟨other, ?_⟩
      split
      · rename_i hother
        exact (hcut _).2 (.inl (hother ▸ hend))
      · exact hend
    · exact ⟨key, by rw [if_pos rfl]; exact (hcut _).2 (.inr haround)⟩

/-- **Removing over an empty range changes no values.** -/
theorem valuesAt_remove_of_isEmpty (hordered : t.Ordered) (h : (t.clamp r).isEmpty = true)
    (key : StyleKey) (offset : Nat) : (t.remove key r).valuesAt offset = t.valuesAt offset := by
  refine valuesAt_congr fun other => ?_
  rw [get?_remove hordered, if_neg fun hin => not_contains_of_isEmpty h hin.2]

/-- Removing a value does not change what a range is cut down to. -/
theorem clamp_remove (key : StyleKey) (r q : Span) : (t.remove key r).clamp q = t.clamp q := rfl

/-- A cut at an offset would be seen in a range: it lies inside of the range and of a stretch of the
kind, and no stretch ends there. -/
def Parts (t : StyledText) (key : StyleKey) (n : Nat) (q : Span) : Prop :=
  (t.layer key).Around n ∧ q.start < n ∧ n < q.stop ∧ n ∉ t.bounds

/-- A range is cut as before if the new cut is not seen in it. -/
theorem cuts_remove (h : (t.clamp r).isEmpty = true) (hq : q.start ≤ q.stop)
    (hparts : ¬ t.Parts key (t.clamp r).start q) : (t.remove key r).cuts q = t.cuts q := by
  refine (pairwise_cuts _ q).eq_of_mem_iff (pairwise_cuts t q) fun n => ?_
  rw [mem_cuts hq, mem_cuts hq, mem_inside, mem_inside, mem_bounds_remove h]
  refine or_congr_right (or_congr_right (and_congr_left fun hin => or_iff_left_of_imp ?_))
  rintro ⟨rfl, haround⟩
  by_contra hn
  exact hparts ⟨haround, hin.1, hin.2, hn⟩

/-- All cuts of before are made, and the new one if it is seen. -/
theorem mem_cuts_remove (h : (t.clamp r).isEmpty = true) (hq : q.start ≤ q.stop)
    (hparts : t.Parts key (t.clamp r).start q) :
    n ∈ (t.remove key r).cuts q ↔ n = (t.clamp r).start ∨ n ∈ t.cuts q := by
  obtain ⟨haround, hafter, hbefore, -⟩ := hparts
  rw [mem_cuts hq, mem_cuts hq, mem_inside, mem_inside, mem_bounds_remove h]
  constructor
  · tauto
  · rintro (rfl | hn)
    · exact .inr (.inr ⟨.inr ⟨rfl, haround⟩, hafter, hbefore⟩)
    · tauto

/-- A cut that is not seen leaves runs as they were. -/
theorem runs?_remove_of_not_parts (hordered : t.Ordered) (h : (t.clamp r).isEmpty = true)
    (hparts : ¬ t.Parts key (t.clamp r).start (t.clamp q)) :
    (t.remove key r).runs? q = t.runs? q := by
  have hrun : (t.remove key r).run? = t.run? := by
    funext s
    unfold run?
    rw [valuesAt_remove_of_isEmpty hordered h key]
    rfl
  unfold runs?
  rw [clamp_remove, cuts_remove h (start_clamp_le t q) hparts, hrun]

/-- A cut that is seen gives other runs, if there were any. -/
theorem runs?_remove_of_parts (h : (t.clamp r).isEmpty = true)
    (hparts : t.Parts key (t.clamp r).start (t.clamp q)) :
    (t.remove key r).runs? q = t.runs? q ↔ t.runs? q = none := by
  have hle := start_clamp_le t q
  have hlt : (t.clamp q).start < (t.clamp q).stop := hparts.2.1.trans hparts.2.2.1
  have hmem := fun n => mem_cuts_remove (n := n) h hle hparts
  constructor
  · -- With the same runs, the new cut would have been an end of one of them before.
    intro hsame
    apply Option.eq_none_iff_forall_ne_some.2
    intro runs hruns
    have hbetween : between ((t.remove key r).cuts (t.clamp q)) = between (t.cuts (t.clamp q)) :=
      (ranges_of_runs? (hsame.trans hruns)).symm.trans (ranges_of_runs? hruns)
    have hnew : (t.clamp r).start ∈ t.cuts (t.clamp q) := by
      obtain ⟨s, hs, hend⟩ := exists_end_of_mem_cuts hlt ((hmem _).2 (.inl rfl))
      rw [hbetween] at hs
      obtain ⟨hstart, hstop, -, -⟩ := of_mem_between (pairwise_cuts t _) hs
      rcases hend with hend | hend
      · exact hend ▸ hstart
      · exact hend ▸ hstop
    obtain ⟨-, hafter, hbefore, hnone⟩ := hparts
    rcases (mem_cuts hle).1 hnew with heq | heq | hin
    · omega
    · omega
    · exact hnone (mem_inside.1 hin).1
  · -- A cut that went through a character is still made.
    intro hnone
    have hiff := isSome_runs?_iff (t := t.remove key r) (r := q) hlt
    rw [hnone, ← Option.not_isSome_iff_eq_none, hiff]
    intro hall
    have hsome : (t.runs? q).isSome = true :=
      (isSome_runs?_iff hlt).2 fun n hn => hall n ((hmem n).2 (.inr hn))
    rw [hnone] at hsome
    exact absurd hsome (by simp)

/-- **Operations on an empty range.** Setting and clearing leave the runs of every range as they
were. Removing does so as well, unless the place of the empty range lies inside of a stretch of the
kind that is removed and inside of the range that is split, and no stretch ended there before: then
the stretch is cut in two, and a run with it. -/
theorem runs?_of_isEmpty (h : t.Written) (hempty : (t.clamp r).isEmpty = true) (q : Span) :
    (∀ v, (t.set r v).runs? q = t.runs? q) ∧ (t.clear r).runs? q = t.runs? q ∧
      ∀ key, (t.remove key r).runs? q = t.runs? q ↔
        t.runs? q = none ∨ ¬ t.Parts key (t.clamp r).start (t.clamp q) := by
  refine ⟨fun v => by rw [set_of_isEmpty hempty], by rw [clear_of_isEmpty hempty], fun key => ?_⟩
  by_cases hparts : t.Parts key (t.clamp r).start (t.clamp q)
  · rw [runs?_remove_of_parts hempty hparts, or_iff_left (not_not_intro hparts)]
  · simp only [runs?_remove_of_not_parts h.ordered hempty hparts, hparts, not_false_eq_true,
      or_true]

/-- A reversed range in the middle of bold text is passed over by setting and clearing; other kinds
can be removed there. -/
theorem runs?_of_isEmpty_bold :
    let t := (ofString "abc").set ⟨0, 3⟩ .bold
    t.Written ∧ (t.clamp ⟨2, 1⟩).isEmpty = true ∧
      (t.set ⟨2, 1⟩ .italic).runs? ⟨0, 3⟩ = t.runs? ⟨0, 3⟩ ∧
      (t.clear ⟨2, 1⟩).runs? ⟨0, 3⟩ = t.runs? ⟨0, 3⟩ ∧
      (t.remove .italic ⟨2, 1⟩).runs? ⟨0, 3⟩ = t.runs? ⟨0, 3⟩ := by
  intro t
  have hwritten : t.Written := .set _ _ (.ofChars _)
  have hempty : (t.clamp ⟨2, 1⟩).isEmpty = true := by decide +kernel
  obtain ⟨hset, hclear, hremove⟩ := runs?_of_isEmpty hwritten hempty ⟨0, 3⟩
  have hlayer : t.layer .italic = [] := by decide +kernel
  refine ⟨hwritten, hempty, hset .italic, hclear, (hremove .italic).2 (.inr fun hparts => ?_)⟩
  obtain ⟨⟨s, hs, -⟩, -⟩ := hparts
  rw [hlayer] at hs
  exact absurd hs List.not_mem_nil

/-- Removing bold over an empty range in the middle of bold text cuts its only run in two. -/
theorem remove_cuts_bold :
    let t := (ofString "abc").set ⟨0, 3⟩ .bold
    t.Written ∧ (t.clamp ⟨1, 1⟩).isEmpty = true ∧
      t.runs? ⟨0, 3⟩ = some [⟨⟨0, 3⟩, ['a', 'b', 'c'], [.bold]⟩] ∧
      (t.remove .bold ⟨1, 1⟩).runs? ⟨0, 3⟩ =
        some [⟨⟨0, 1⟩, ['a'], [.bold]⟩, ⟨⟨1, 3⟩, ['b', 'c'], [.bold]⟩] :=
  ⟨.set _ _ (.ofChars _), by decide +kernel, by decide +kernel, by decide +kernel⟩

end StyledText

end ScopePaint
