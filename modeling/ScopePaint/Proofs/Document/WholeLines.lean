import ScopePaint.Document.Report
import ScopePaint.Proofs.Document.FromScratch
import ScopePaint.Proofs.Document.Styling
import ScopePaint.Proofs.Style.Runs
import ScopePaint.Proofs.Tokens.Tiling

/-!
# Documents lose no text

A line that is up to date has tokens that lead from its start to its end (`DocumentLine.Whole`),
because tokenizing gave them (`Coherent.whole`). Two things follow. Styling such lines writes between
characters only, so that a document that is styled as a whole can be shown on a terminal, and is
shown with all of its text (`Document.Stands.terminalPieces?`). And the texts that are reported of
the tokens of a line make up the line (`Document.Stands.reportLines`).
-/

set_option autoImplicit false

namespace ScopePaint

open Text (Span IsBoundary byteLength slice?)

/-- A line with tokens that lead from its start to its end. -/
def DocumentLine.Whole (line : DocumentLine) : Prop :=
  ∃ l, line.tokens = some l ∧ IsRow line.text.toList 0 line.length l.tokens

section Lines

variable {base : Library} {id : Nat} {theme : Theme} {start : Option LineState} {text : String}
  {result : TokenLine × LineState} {lines : List DocumentLine} {line : DocumentLine} {index n : Nat}

/-- Tokenizing gives tokens that lead from the start of the text to its end. -/
theorem tokenizeFrom_row (hb : base.Built) (hl : base.Loaded) (hknown : Known base id theme start)
    (h : base.tokenizeFrom id theme start text = .ok result) :
    IsRow text.toList 0 (byteLength text.toList) result.1.tokens := by
  obtain ⟨state, hr, hline⟩ := tokenizeFrom_eq_ok hknown h
  have hcovers := Library.tokenizeLine_covers hb hl (hr.mono fun _ _ => trivial) (.refl base) theme
    text.toList
  rw [hline] at hcovers
  exact hcovers.1.row

/-- **Lines that are up to date are whole.** -/
theorem Coherent.whole (h : Coherent base id theme start lines) (hb : base.Built)
    (hl : base.Loaded) (hknown : Known base id theme start) (hsettled : Settled n lines)
    (hindex : index < n) (hline : lines[index]? = some line) : line.Whole := by
  induction lines generalizing start n index with
  | nil => exact absurd hline (by simp)
  | cons first rest ih =>
    obtain ⟨hend, hfirst, hrest⟩ := h
    obtain ⟨n, rfl⟩ : ∃ m, n = m + 1 := ⟨n - 1, by omega⟩
    cases index with
    | zero =>
      obtain rfl : first = line := by simpa using hline
      obtain ⟨result, hresult, l, state, htokens, -, hsame⟩ := hfirst hsettled.1
      exact ⟨l, htokens, (tokenizeFrom_row hb hl hknown hresult).of_ranges hsame.ranges⟩
    | succ index =>
      exact ih hrest hend hsettled.2 (Nat.lt_of_succ_lt_succ hindex) (by simpa using hline)

end Lines

/-! ## Styling -/

/-- Styling a whole line at the end of a text writes between characters only. -/
theorem DocumentLine.Whole.aligned {line : DocumentLine} (h : line.Whole) {text : StyledText}
    (htext : text.Aligned) (selected : Bool) :
    (Document.appendLine text line selected).1.Aligned := by
  obtain ⟨l, htokens, hrow⟩ := h
  have happended : (text.append line.text.toList).Aligned := htext.append _
  unfold Document.appendLine
  rw [htokens]
  -- All offsets that are written at lie between characters of the line, moved behind the text.
  have hmoved : ∀ t : StyledText, t.text = text.text ++ line.text.toList → ∀ offset,
      IsBoundary line.text.toList offset → IsBoundary t.text (text.length + offset) := by
    intro t ht offset hoffset
    rw [ht]
    exact hoffset.behind text.text
  have hfirst := Text.isBoundary_zero line.text.toList
  have hlast : IsBoundary line.text.toList l.length := by
    rw [hrow.length]
    exact Text.isBoundary_byteLength _
  let p : StyledText → Prop := fun t => t.Aligned ∧ t.text = text.text ++ line.text.toList
  have hp : p (l.apply (text.append line.text.toList) text.length selected true) := by
    refine TokenLine.apply_induction (p := p) ?_ ?_ ?_ ⟨happended, rfl⟩ selected
    · rintro t ⟨ht, hsame⟩
      exact ⟨ht.clear (hmoved t hsame 0 hfirst) (hmoved t hsame _ hlast),
        (StyledText.text_clear t _).trans hsame⟩
    · rintro t v token htoken ⟨ht, hsame⟩
      obtain ⟨-, hstart, hstop⟩ := hrow.of_mem hfirst htoken
      exact ⟨ht.set (hmoved t hsame _ hstart) (hmoved t hsame _ hstop) v,
        (StyledText.text_set t _ v).trans hsame⟩
    · rintro t v ⟨ht, hsame⟩
      exact ⟨ht.set (hmoved t hsame 0 hfirst) (hmoved t hsame _ hlast) v,
        (StyledText.text_set t _ v).trans hsame⟩
  exact hp.1

namespace Document

/-- Styling whole lines writes between characters only. -/
theorem aligned_appendLines (selected : Nat → Bool) (first : Nat) {text : StyledText}
    (htext : text.Aligned) {lines : List DocumentLine} (h : ∀ line ∈ lines, line.Whole) :
    (appendLines selected first text lines).1.Aligned := by
  induction lines generalizing first text with
  | nil => exact htext
  | cons line rest ih =>
    obtain ⟨hline, hrest⟩ := List.forall_mem_cons.1 h
    rw [appendLines_cons]
    refine ih _ (hline.aligned ?_ _) hrest
    split
    · exact htext
    · exact htext.append _

/-- There are tokens for a line if it can be brought up to date. -/
theorem isOk_tokens_eq_refresh (d : Document) (lib : Library) (index : Nat) :
    (d.tokens lib index).1.isOk = (d.refresh lib index).1.isOk := by
  unfold tokens
  split <;> rename_i h <;> rw [h] <;> rfl

/-- A document can be styled if all of its lines can be brought up to date. -/
theorem exists_styled {d : Document} {lib : Library}
    (h : (d.refresh lib (d.lines.length - 1)).1.isOk = true) (selection : Option Span) :
    ∃ t lib' d', d.styled lib selection = (.ok t, lib', d') := by
  unfold styled
  split
  · rename_i hrefresh
    rw [hrefresh] at h
    exact absurd h (by simp [Except.isOk, Except.toBool])
  · exact ⟨_, _, _, rfl⟩

namespace Stands

variable {base lib : Library} {id index last : Nat} {current : Theme} {texts : List String}
  {d : Document} {line : DocumentLine}

/-- Once lines are up to date they are whole. -/
theorem whole_refresh (h : Stands base id current texts lib d) (hb : base.Built)
    (hl : base.Loaded) (hok : (d.refresh lib last).1 = .ok ()) (hle : index ≤ last)
    (hline : (d.refresh lib last).2.2.lines[index]? = some line) : line.Whole := by
  have hsound := h.sound.refresh hb.sound h.queried last
  have hindex : index < d.lines.length := by
    rw [← length_refresh d lib last]
    exact (List.getElem?_eq_some_iff.1 hline).1
  exact hsound.coherent.whole hb hl (known_none _ _ _) hsound.settled
    (lt_valid_refresh hok hle hindex) hline

/-- **A styled document is shown with all of its text.** -/
theorem terminalPieces? (h : Stands base id current texts lib d) (hb : base.Built)
    (hl : base.Loaded) {selection : Option Span} {t : StyledText} {lib' : Library} {d' : Document}
    (hstyled : d.styled lib selection = (.ok t, lib', d')) :
    ∃ pieces, t.terminalPieces? = some pieces ∧
      pieces.flatMap TerminalPiece.shown = Text.joinLines (texts.map String.toList) := by
  obtain ⟨hok, hd', ht⟩ := of_styled hstyled
  have hwhole : ∀ line ∈ d'.lines, line.Whole := by
    intro line hmem
    obtain ⟨index, hindex, hline⟩ := List.mem_iff_getElem.1 hmem
    have hcount : d'.lines.length = d.lines.length := by rw [hd', length_refresh]
    subst hd'
    exact h.whole_refresh hb hl hok (by omega) (List.getElem?_eq_some_iff.2 ⟨hindex, hline⟩)
  have haligned := aligned_appendLines (isSelected selection) 0 (StyledText.aligned_ofChars [])
    hwhole
  have htext := (appendLines_zero (isSelected selection) d'.lines).1
  rw [← ht] at haligned htext
  obtain ⟨pieces, hpieces, hshown⟩ := haligned.terminalPieces?
  refine ⟨pieces, hpieces, hshown.trans (htext.trans ?_)⟩
  rw [← h.texts, ← map_text_refresh d lib (d.lines.length - 1), ← hd', List.map_map]
  rfl

/-! ## Reports -/

/-- **The texts of the tokens of a whole line make up the line.** -/
theorem flatMap_text_ofTokens {l : TokenLine} (h : IsRow line.text.toList 0 line.length l.tokens)
    (index : Nat) :
    (LineReport.ofTokens index line.text l).tokens.flatMap (·.text) = line.text.toList := by
  obtain ⟨-, hall⟩ := h.leads.slice?_eq (Text.isBoundary_zero _)
  have hwhole := Text.slice?_all line.text.toList
  have htext := Option.some.inj (hall.symm.trans hwhole)
  unfold LineReport.ofTokens
  rw [List.flatMap_map] at htext ⊢
  exact htext

/-- The tokens of a line are asked for with its text and lead from its start to its end. -/
theorem of_tokens (h : Stands base id current texts lib d) (hb : base.Built) (hl : base.Loaded)
    (hindex : index < texts.length) {tokens : Option TokenLine} {lib' : Library} {d' : Document}
    (htokens : d.tokens lib index = (.ok tokens, lib', d')) :
    ∃ (line : DocumentLine) (l : TokenLine), tokens = some l ∧ d'.lineText? index = some line.text ∧
      texts[index]? = some line.text ∧ IsRow line.text.toList 0 line.length l.tokens := by
  have hafter := (h.refresh hb.sound index []).texts
  have hwhole := fun line => @whole_refresh _ _ _ index index _ _ _ line h hb hl
  unfold Document.tokens at htokens
  cases hrefresh : d.refresh lib index with
  | mk outcome rest =>
    rw [hrefresh] at htokens hafter hwhole
    cases outcome with
    | error e => exact absurd (congrArg Prod.fst htokens) (by simp)
    | ok _ =>
      obtain ⟨hkept, hrest⟩ := Prod.mk.inj htokens
      obtain ⟨-, rfl⟩ := Prod.mk.inj hrest
      rw [← hafter, List.length_map] at hindex
      have hline := List.getElem?_eq_getElem hindex
      obtain ⟨l, hl, hrow⟩ := hwhole _ rfl (Nat.le_refl index) hline
      refine ⟨_, l, ?_, ?_, ?_, hrow⟩
      · rw [← Except.ok.inj hkept, hline]
        exact hl
      · rw [lineText?, hline]
        rfl
      · rw [← hafter, List.getElem?_map, hline]
        rfl

/-- Tokens can be had precisely where the lines before can be tokenized one after the other. -/
theorem isOk_tokens (h : Stands base id current texts lib d) (hs : base.Sound) (index : Nat) :
    (d.tokens lib index).1.isOk = (base.tokensFromScratch id current none texts index).isOk := by
  have hscratch := h.sound.tokens_fromScratch hs h.queried index
  rw [h.grammar, h.theme, h.texts] at hscratch
  have hisOk := congrArg Except.isOk hscratch
  rwa [isOk_map, isOk_map] at hisOk

/-- **Each line is reported with all of its text.** -/
theorem reportLines (h : Stands base id current texts lib d) (hb : base.Built) (hl : base.Loaded)
    {indexes : List Nat} (hin : ∀ index ∈ indexes, index < texts.length)
    (hok : ∀ index ∈ indexes, (base.tokensFromScratch id current none texts index).isOk = true) :
    ∃ reports lib' d', d.reportLines lib indexes = (reports, .ok (), lib', d') ∧
      reports.map (·.line) = indexes ∧
      reports.map (fun r => r.tokens.flatMap (·.text)) =
        indexes.map fun index => ((texts[index]?).getD "").toList := by
  induction indexes generalizing lib d with
  | nil => exact ⟨[], lib, d, rfl, rfl, rfl⟩
  | cons index rest ih =>
    obtain ⟨hindex, hrest⟩ := List.forall_mem_cons.1 hin
    obtain ⟨htokenized, hothers⟩ := List.forall_mem_cons.1 hok
    rw [← h.isOk_tokens hb.sound] at htokenized
    have hcall := h.call hb.sound (.tokens index)
    cases htokens : d.tokens lib index with
    | mk outcome after =>
      dsimp only [Call.run, Call.theme, Call.texts] at hcall
      rw [htokens] at htokenized hcall
      cases outcome with
      | error e => exact absurd htokenized (by simp [Except.isOk, Except.toBool])
      | ok tokens =>
        obtain ⟨line, l, rfl, htext, hget, hrow⟩ := h.of_tokens hb hl hindex htokens
        obtain ⟨reports, lib', d', hreports, hlines, htexts⟩ := ih hcall hrest hothers
        refine ⟨.ofTokens index line.text l :: reports, lib', d', ?_, ?_, ?_⟩
        · rw [Document.reportLines, htokens]
          dsimp only
          rw [hreports, htext]
          rfl
        · rw [List.map_cons, hlines]
          rfl
        · rw [List.map_cons, List.map_cons, htexts, flatMap_text_ofTokens hrow, hget]
          rfl

end Stands

end Document

end ScopePaint
