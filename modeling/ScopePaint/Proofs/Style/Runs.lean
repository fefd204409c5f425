import ScopePaint.Proofs.Style.StretchEnds
import ScopePaint.Proofs.Text.Lines
import ScopePaint.Proofs.Text.Slices
import ScopePaint.Style.TerminalText

/-!
# Runs show the whole text

A range is cut at the ends of all stretches inside of it, in ascending order and without repetition
(`StyledText.pairwise_cuts`, `StyledText.mem_cuts`). If stretches end between characters, so do the
runs, and their texts make up that of the range (`StyledText.Aligned.runs?`). A terminal gets a
text line by line, each of them in runs, with the line breaks between them: all of the text and
nothing else is shown (`StyledText.Aligned.terminalPieces?`).
-/

set_option autoImplicit false

namespace ScopePaint

open Text (Span IsBoundary Leads byteLength slice?)

namespace StyledText

variable {t : StyledText} {r : Span} {n m a b : Nat} {ns : List Nat}

/-! ## Cuts -/

/-- An inserted bound stands beside the others. -/
theorem mem_insertBound : m ∈ insertBound n ns ↔ m = n ∨ m ∈ ns := by
  induction ns with
  | nil => simp [insertBound]
  | cons k ns ih =>
    rw [insertBound]
    split
    · exact List.mem_cons
    · split
      · rename_i hk
        simp [hk]
      · rw [List.mem_cons, ih, List.mem_cons]
        exact or_left_comm

/-- Bounds that ascend do so when one is inserted. -/
theorem pairwise_insertBound (h : ns.Pairwise (· < ·)) : (insertBound n ns).Pairwise (· < ·) := by
  induction ns with
  | nil => exact List.pairwise_singleton _ _
  | cons k ns ih =>
    obtain ⟨hk, hns⟩ := List.pairwise_cons.1 h
    rw [insertBound]
    split
    · rename_i hlt
      exact List.pairwise_cons.2 ⟨List.forall_mem_cons.2 ⟨hlt, fun m hm => hlt.trans (hk m hm)⟩, h⟩
    · split
      · exact h
      · refine List.pairwise_cons.2 ⟨fun m hm => ?_, ih hns⟩
        rcases mem_insertBound.1 hm with rfl | hm
        · omega
        · exact hk m hm

/-- Putting offsets into an ascending list one after the other. -/
theorem foldl_insertBound (more : List Nat) (h : ns.Pairwise (· < ·)) :
    (more.foldl (fun ns n => insertBound n ns) ns).Pairwise (· < ·) ∧
      ∀ m, m ∈ more.foldl (fun ns n => insertBound n ns) ns ↔ m ∈ more ∨ m ∈ ns := by
  induction more generalizing ns with
  | nil => exact ⟨h, by simp⟩
  | cons n more ih =>
    obtain ⟨hsorted, hmem⟩ := ih (pairwise_insertBound (n := n) h)
    refine ⟨hsorted, fun m => ?_⟩
    rw [List.foldl_cons, hmem, mem_insertBound, List.mem_cons]
    tauto

/-- The offsets at which stretches end inside of a range. -/
def inside (t : StyledText) (r : Span) : List Nat :=
  t.bounds.filter fun n => r.start < n ∧ n < r.stop

/-- The bounds inside of a range are those between its start and its stop. -/
theorem mem_inside : n ∈ t.inside r ↔ n ∈ t.bounds ∧ r.start < n ∧ n < r.stop := by
  simp [inside]

/-- A range is cut at its start, at its stop and at the bounds inside. -/
theorem mem_cuts (hle : r.start ≤ r.stop) :
    n ∈ t.cuts r ↔ n = r.start ∨ n = r.stop ∨ n ∈ t.inside r := by
  have hfront := (foldl_insertBound (t.inside r) (List.pairwise_singleton (· < ·) r.start)).2 n
  unfold cuts
  dsimp only
  rw [List.mem_append, ← inside, hfront, List.mem_singleton]
  rcases Nat.lt_or_ge r.start r.stop with hlt | hge
  · rw [if_pos hlt, List.mem_singleton]
    tauto
  · have heq : r.stop = r.start := by omega
    rw [if_neg (by omega), heq]
    simp only [List.not_mem_nil, or_false]
    tauto

/-- The cuts ascend. -/
theorem pairwise_cuts (t : StyledText) (r : Span) : (t.cuts r).Pairwise (· < ·) := by
  obtain ⟨hsorted, hmem⟩ :=
    foldl_insertBound (t.inside r) (List.pairwise_singleton (· < ·) r.start)
  unfold cuts
  refine List.pairwise_append.2 ⟨hsorted, ?_, fun n hn m hm => ?_⟩
  · split
    · exact List.pairwise_singleton _ _
    · exact .nil
  · split at hm
    · rename_i hlt
      obtain rfl := List.mem_singleton.1 hm
      rcases (hmem n).1 hn with hn | hn
      · exact (mem_inside.1 hn).2.2
      · exact List.mem_singleton.1 hn ▸ hlt
    · exact absurd hm List.not_mem_nil

/-- Ascending offsets lead from the first of them to the last one. -/
theorem leads_between {cs : List Char} (hsorted : ns.Pairwise (· < ·)) (ha : a ∈ ns) (hb : b ∈ ns)
    (hin : ∀ n ∈ ns, a ≤ n ∧ n ≤ b ∧ IsBoundary cs n) : Leads cs a b (between ns) := by
  induction ns generalizing a with
  | nil => exact absurd ha List.not_mem_nil
  | cons first rest ih =>
    obtain ⟨hfirst, hrest⟩ := List.pairwise_cons.1 hsorted
    have hstart : a = first := by
      have hle := (hin first List.mem_cons_self).1
      rcases List.mem_cons.1 ha with ha | ha
      · exact ha
      · have := hfirst a ha
        omega
    subst hstart
    cases rest with
    | nil => exact (List.mem_singleton.1 hb).symm
    | cons next rest =>
      have hnext := hfirst next List.mem_cons_self
      have hstop : b ∈ next :: rest := by
        rcases List.mem_cons.1 hb with rfl | hb
        · have := (hin next (by simp)).2.1
          omega
        · exact hb
      refine ⟨rfl, Nat.le_of_lt hnext, (hin next (by simp)).2.2, ?_⟩
      refine ih hrest List.mem_cons_self hstop fun n hn => ⟨?_, (hin n (List.mem_cons_of_mem _ hn)).2⟩
      rcases List.mem_cons.1 hn with rfl | hn
      · exact Nat.le_refl _
      · exact Nat.le_of_lt ((List.pairwise_cons.1 hrest).1 n hn)

/-! ## Runs -/

/-- The bounds of an aligned text lie between characters. -/
theorem Aligned.isBoundary (h : t.Aligned) (hn : n ∈ t.bounds) : IsBoundary t.text n := by
  obtain ⟨key, -, hn⟩ := List.mem_flatMap.1 hn
  obtain ⟨s, hs, hn⟩ := List.mem_flatMap.1 hn
  obtain ⟨hstart, hstop⟩ := h key s hs
  rcases List.mem_cons.1 hn with rfl | hn
  · exact hstart
  · exact List.mem_singleton.1 hn ▸ hstop

/-- A map that succeeds everywhere gives all of its results. -/
theorem mapM_eq_some {α β : Type} {f : α → Option β} {g : α → β} {xs : List α}
    (h : ∀ x ∈ xs, f x = some (g x)) : xs.mapM f = some (xs.map g) := by
  induction xs with
  | nil => rfl
  | cons x xs ih =>
    obtain ⟨hx, hxs⟩ := List.forall_mem_cons.1 h
    rw [List.mapM_cons, hx, ih hxs]
    rfl

/-- **The runs of a range**, if its ends and the ends of stretches inside of it lie between
characters: one for each range between neighbouring cuts, which together have its text. -/
theorem runs?_eq (hstart : IsBoundary t.text (t.clamp r).start)
    (hstop : IsBoundary t.text (t.clamp r).stop)
    (hinside : ∀ n ∈ t.inside (t.clamp r), IsBoundary t.text n) :
    t.runs? r = some ((between (t.cuts (t.clamp r))).map fun s =>
        ⟨s, (slice? t.text s).getD [], t.valuesAt s.start⟩) ∧
      Leads t.text (t.clamp r).start (t.clamp r).stop (between (t.cuts (t.clamp r))) ∧
      (∀ s ∈ between (t.cuts (t.clamp r)), slice? t.text s = some ((slice? t.text s).getD [])) ∧
      slice? t.text (t.clamp r) = some ((between (t.cuts (t.clamp r))).flatMap fun s =>
        (slice? t.text s).getD []) := by
  have hle := start_clamp_le t r
  have hleads : Leads t.text (t.clamp r).start (t.clamp r).stop (between (t.cuts (t.clamp r))) := by
    refine leads_between (pairwise_cuts t _) ((mem_cuts hle).2 (.inl rfl))
      ((mem_cuts hle).2 (.inr (.inl rfl))) fun n hn => ?_
    rcases (mem_cuts hle).1 hn with rfl | rfl | hn
    · exact ⟨Nat.le_refl _, hle, hstart⟩
    · exact ⟨hle, Nat.le_refl _, hstop⟩
    · obtain ⟨-, hafter, hbefore⟩ := mem_inside.1 hn
      exact ⟨Nat.le_of_lt hafter, Nat.le_of_lt hbefore, hinside n hn⟩
  obtain ⟨hparts, hall⟩ := hleads.slice?_eq hstart
  refine ⟨mapM_eq_some fun s hs => ?_, hleads, hparts, hall⟩
  unfold run?
  rw [hparts s hs]
  rfl

/-- **The texts of runs make up that of their range.** -/
theorem Aligned.runs? (h : t.Aligned) (hstart : IsBoundary t.text r.start)
    (hstop : IsBoundary t.text r.stop) (hle : r.start ≤ r.stop) :
    ∃ runs, t.runs? r = some runs ∧ slice? t.text r = some (runs.flatMap (·.text)) := by
  have hclamp : t.clamp r = r := by
    have := hstop.le
    unfold clamp length
    dsimp only
    rw [Nat.min_eq_left this, Nat.min_eq_left hle]
  obtain ⟨hruns, -, -, hall⟩ := runs?_eq (t := t) (r := r) (by rwa [hclamp]) (by rwa [hclamp])
    fun n hn => h.isBoundary (mem_inside.1 hn).1
  refine ⟨_, hruns, ?_⟩
  rw [hclamp] at hall
  rw [hall, hclamp, List.flatMap_map]

/-! ## Terminals -/

/-- Codes show nothing. -/
theorem flatMap_shown_codes (codes : List TerminalCode) :
    (codes.map TerminalPiece.code).flatMap TerminalPiece.shown = [] := by
  rw [List.flatMap_map, List.flatMap_eq_nil_iff]
  exact fun _ _ => rfl

/-- Of a span its text is shown. -/
theorem flatMap_shown_pieces (s : TerminalSpan) :
    s.pieces.flatMap TerminalPiece.shown = s.text := by
  unfold TerminalSpan.pieces
  rw [List.flatMap_append, flatMap_shown_codes]
  simp [TerminalPiece.shown]

/-- **A line is shown as it is.** -/
theorem Aligned.terminalLine? (h : t.Aligned) {before line after : List Char}
    (htext : t.text = before ++ line ++ after) :
    ∃ shown, t.terminalLine? ⟨byteLength before, byteLength before + byteLength line⟩ = some shown ∧
      (shown.spans.flatMap TerminalSpan.pieces).flatMap TerminalPiece.shown = line := by
  have hslice : slice? t.text ⟨byteLength before, byteLength before + byteLength line⟩ = some line :=
    Text.slice?_eq_some_iff.2 ⟨before, after, htext, rfl, rfl⟩
  have hstart : IsBoundary t.text (byteLength before) :=
    ⟨before, line ++ after, by rw [htext, List.append_assoc], rfl⟩
  have hstop : IsBoundary t.text (byteLength before + byteLength line) :=
    ⟨before ++ line, after, htext, Text.byteLength_append _ _⟩
  obtain ⟨runs, hruns, hline⟩ :=
    h.runs? (r := ⟨byteLength before, _⟩) hstart hstop (Nat.le_add_right _ _)
  unfold StyledText.terminalLine?
  rw [hruns]
  refine ⟨_, rfl, ?_⟩
  rw [List.flatMap_assoc, List.flatMap_map]
  simp only [flatMap_shown_pieces]
  exact Option.some.inj (hline.symm.trans hslice)

/-- The lines from one of them on are shown as they are, with line breaks between them. -/
theorem Aligned.linePieces? (h : t.Aligned) (lines : List (List Char)) (before : List Char)
    (htext : t.text = before ++ Text.joinLines lines) :
    ∃ pieces, t.linePieces? (byteLength before) lines = some pieces ∧
      pieces.flatMap TerminalPiece.shown = Text.joinLines lines := by
  induction lines generalizing before with
  | nil => exact ⟨[], rfl, rfl⟩
  | cons line rest ih =>
    cases rest with
    | nil =>
      have hparts : t.text = before ++ line ++ [] := by
        rw [htext]
        simp [Text.joinLines]
      obtain ⟨shown, hshown, hline⟩ := h.terminalLine? hparts
      refine ⟨shown.spans.flatMap TerminalSpan.pieces, ?_, ?_⟩
      · rw [StyledText.linePieces?]
        dsimp only
        rw [hshown]
        rfl
      · rw [hline]
        simp [Text.joinLines]
    | cons next others =>
      have hjoin := Text.joinLines_cons_of_ne_nil line (List.cons_ne_nil next others)
      rw [hjoin] at htext ⊢
      have hparts : t.text = before ++ line ++ '\n' :: Text.joinLines (next :: others) := by
        rw [htext, List.append_assoc]
      obtain ⟨shown, hshown, hline⟩ := h.terminalLine? hparts
      obtain ⟨pieces, hpieces, hrest⟩ := ih (before ++ line ++ ['\n']) (by rw [htext]; simp)
      have hlength : byteLength (before ++ line ++ ['\n']) =
          byteLength before + byteLength line + 1 := by
        rw [Text.byteLength_append, Text.byteLength_append]
        rfl
      rw [hlength] at hpieces
      refine ⟨shown.spans.flatMap TerminalSpan.pieces ++ .text ['\n'] :: pieces, ?_, ?_⟩
      · rw [StyledText.linePieces?]
        dsimp only
        rw [hshown, hpieces]
        rfl
      · rw [List.flatMap_append, List.flatMap_cons, hline, hrest]
        rfl

/-- **A terminal shows the whole text.** A text whose stretches end between characters has pieces
for a terminal, and what they show makes up the text. -/
theorem Aligned.terminalPieces? (h : t.Aligned) :
    ∃ pieces, t.terminalPieces? = some pieces ∧
      pieces.flatMap TerminalPiece.shown = t.text := by
  have hjoin := Text.joinLines_splitAt t.text
  obtain ⟨pieces, hpieces, hshown⟩ := h.linePieces? (Text.splitAt '\n' t.text) [] hjoin.symm
  exact ⟨pieces, hpieces, hshown.trans hjoin⟩

end StyledText

end ScopePaint
