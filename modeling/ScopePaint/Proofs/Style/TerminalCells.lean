import Mathlib.Data.List.Induction
import ScopePaint.Proofs.Style.RunPartition

/-!
# Terminals show each byte as it is styled

What a terminal shows of some values is found by going through them in order, where a plain
background counts more than a rounded one (`CellStyle.ofValues_concat`). If each kind of value is
there at most once, the order makes no difference: all that counts is which value there is of each
kind (`CellStyle.ofValues_eq_ofLookup`). This is so for the values at an offset of a text.

A span of a line has the style of its first byte, and thereby that of each of its bytes, since no
value changes inside of a run. So the line for a range has the text of the range, and the span with
a byte has the style of that byte (`StyledText.terminalLine_faithful`).
-/

set_option autoImplicit false

namespace ScopePaint

open Text (Span IsBoundary Leads byteLength slice?)

/-- The color of a value, if it is one that has a color. -/
def StyleValue.color? : StyleValue → Option Color
  | .foreground c | .background c | .underlineColor c => some c
  | .roundedBackground b => some b.color
  | _ => none

namespace CellStyle

/-- A color for a terminal, if there is one of a kind. -/
def shownColor (value? : StyleKey → Option StyleValue) (key : StyleKey) : Option Color :=
  ((value? key).bind StyleValue.color?).map Color.opaqueOf

/-- What a terminal is to show, by the values that there are of each kind: colors without alpha, a
plain background rather than a rounded one, and modifiers. -/
def ofLookup (value? : StyleKey → Option StyleValue) : CellStyle where
  foreground := shownColor value? .foreground
  background := (shownColor value? .background).or (shownColor value? .roundedBackground)
  underlineColor := shownColor value? .underlineColor
  bold := (value? .bold).isSome
  italic := (value? .italic).isSome
  underlined := (value? .underlineStyle).isSome

/-- The value of a kind among some values. -/
def valueOf? (values : List StyleValue) (key : StyleKey) : Option StyleValue :=
  values.find? fun v => v.key = key

variable {values : List StyleValue} {v : StyleValue}

/-- One more value is added to what the values before it show. -/
theorem ofValues_concat (values : List StyleValue) (v : StyleValue) :
    ofValues (values ++ [v]) = (ofValues values).add (values.any isBackground) v := by
  have hflag : ∀ (l : List StyleValue) (acc : CellStyle × Bool),
      (l.foldl (fun acc v => (acc.1.add acc.2 v, acc.2 || isBackground v)) acc).2 =
        (acc.2 || l.any isBackground) := by
    intro l
    induction l with
    | nil => simp
    | cons w rest ih =>
      intro acc
      rw [List.foldl_cons, ih, List.any_cons, Bool.or_assoc]
  unfold ofValues
  rw [List.foldl_append, List.foldl_cons, List.foldl_nil]
  dsimp only
  rw [hflag, Bool.false_or]

/-- The value for a key has that key. -/
theorem key_of_valueOf? {key : StyleKey} (h : valueOf? values key = some v) : v.key = key := by
  simpa using List.find?_some h

/-- Whether there is a background is whether there is a value for its key. -/
theorem any_isBackground (values : List StyleValue) :
    values.any isBackground = (valueOf? values .background).isSome := by
  have hkind : ∀ v, isBackground v = decide (v.key = .background) := fun v => by cases v <;> rfl
  rw [funext hkind, valueOf?, Bool.eq_iff_iff, List.any_eq_true, List.find?_isSome]

/-- A value of a kind that is not there yet is the one of its kind. -/
theorem valueOf?_concat (h : v.key ∉ values.map (·.key)) :
    valueOf? (values ++ [v]) = Function.update (valueOf? values) v.key (some v) := by
  funext key
  unfold valueOf?
  rw [List.find?_append]
  by_cases hkey : key = v.key
  · have hnone : values.find? (fun w => w.key = v.key) = none := by
      rw [List.find?_eq_none]
      intro w hw hsame
      exact h (List.mem_map.2 ⟨w, hw, of_decide_eq_true hsame⟩)
    rw [hkey, Function.update_self, hnone]
    simp
  · rw [Function.update_of_ne hkey, List.find?_cons_of_neg (by simpa using Ne.symm hkey)]
    simp

/-- A value with the key of a background is a background. -/
theorem exists_background (h : v.key = .background) : ∃ c, v = .background c := by
  cases v with
  | background c => exact ⟨c, rfl⟩
  | _ => exact absurd h (by simp [StyleValue.key])

/-- **Adding a value** is showing it as the one of its kind. -/
theorem ofLookup_add {value? : StyleKey → Option StyleValue}
    (hkeys : ∀ key w, value? key = some w → w.key = key) (v : StyleValue) :
    (ofLookup value?).add (value? .background).isSome v =
      ofLookup (Function.update value? v.key (some v)) := by
  cases v with
  | roundedBackground b =>
    cases hplain : value? .background with
    | none => simp [add, ofLookup, shownColor, StyleValue.key, StyleValue.color?, hplain]
    | some w =>
      obtain ⟨c, rfl⟩ := exists_background (hkeys _ _ hplain)
      simp [add, ofLookup, shownColor, StyleValue.key, StyleValue.color?, hplain]
  | _ => simp [add, ofLookup, shownColor, StyleValue.key, StyleValue.color?]

/-- **The order of values makes no difference**, if each kind is there at most once. -/
theorem ofValues_eq_ofLookup (h : (values.map (·.key)).Nodup) :
    ofValues values = ofLookup (valueOf? values) := by
  -- From the back, as the last value is added to what those before it show.
  induction values using List.reverseRecOn with
  | nil => rfl
  | append_singleton values v ih =>
    rw [List.map_append, List.nodup_append] at h
    obtain ⟨hvalues, -, hfresh⟩ := h
    rw [ofValues_concat, ih hvalues, any_isBackground,
      ofLookup_add fun key w => key_of_valueOf?, valueOf?_concat]
    exact fun hmem => hfresh _ hmem _ (by simp) rfl

end CellStyle

namespace StyledText

variable {t : StyledText} {r : Span} {offset : Nat}

/-- What a terminal is to show of the byte at an offset. -/
def cellAt (t : StyledText) (offset : Nat) : CellStyle := .ofLookup fun key => t.get? key offset

/-- Among the values at an offset, each kind is found that is there. -/
theorem Written.valueOf?_valuesAt (h : t.Written) (key : StyleKey) :
    CellStyle.valueOf? (t.valuesAt offset) key = t.get? key offset := by
  cases hfound : CellStyle.valueOf? (t.valuesAt offset) key with
  | none =>
    cases hv : t.get? key offset with
    | none => rfl
    | some v =>
      have hkey := h.key_of_get? hv
      have hmem : v ∈ t.valuesAt offset := h.mem_valuesAt.2 (hkey ▸ hv)
      exact absurd hkey (by simpa using List.find?_eq_none.1 hfound v hmem)
  | some v =>
    have hkey : v.key = key := CellStyle.key_of_valueOf? hfound
    have hv := h.mem_valuesAt.1 (List.mem_of_find?_eq_some hfound)
    rw [← hkey, hv]

/-- The style of a cell is made of the values at it. -/
theorem Written.ofValues_valuesAt (h : t.Written) (offset : Nat) :
    CellStyle.ofValues (t.valuesAt offset) = t.cellAt offset := by
  have hkeys : ((t.valuesAt offset).map (·.key)).Nodup := by
    rw [h.keys_valuesAt offset]
    exact StyleKey.nodup_all.filter _
  rw [CellStyle.ofValues_eq_ofLookup hkeys]
  exact congrArg CellStyle.ofLookup (funext fun key => h.valueOf?_valuesAt key)

end StyledText

/-! ## Lines -/

/-- The span with the byte at an offset of a line. -/
def TerminalSpan.covering? : List TerminalSpan → Nat → Option TerminalSpan
  | [], _ => none
  | s :: rest, offset =>
    if offset < byteLength s.text then some s else covering? rest (offset - byteLength s.text)

/-- Where ranges lead from one place to another, the spans for them cover what lies between. -/
theorem TerminalSpan.covering?_of_leads {cs : List Char} {shown : Span → TerminalSpan}
    {ranges : List Span} {a b offset : Nat} (h : Leads cs a b ranges)
    (hwidth : ∀ s ∈ ranges, s.start + byteLength (shown s).text = s.stop) (ha : a ≤ offset)
    (hb : offset < b) :
    ∃ s ∈ ranges, s.contains offset = true ∧
      covering? (ranges.map shown) (offset - a) = some (shown s) := by
  induction ranges generalizing a with
  | nil =>
    obtain rfl : a = b := h
    omega
  | cons s rest ih =>
    obtain ⟨rfl, -, -, hrest⟩ := h
    have hfirst := hwidth s List.mem_cons_self
    rw [List.map_cons, covering?]
    by_cases hin : offset < s.stop
    · exact ⟨s, List.mem_cons_self, Span.contains_iff.2 ⟨ha, hin⟩, if_pos (by omega)⟩
    · obtain ⟨s', hs', hcontains, hcovering⟩ :=
        ih hrest (fun s' hs' => hwidth s' (List.mem_cons_of_mem s hs')) (by omega)
      refine ⟨s', List.mem_cons_of_mem s hs', hcontains, ?_⟩
      have hbehind : offset - s.start - byteLength (shown s).text = offset - s.stop := by omega
      rw [if_neg (by omega), hbehind, hcovering]

namespace StyledText

variable {t : StyledText} {r : Span}

/-- **A terminal shows each byte as it is styled.** If the ends of a clamped range and the ends of
all stretches inside of it lie between characters, there is a line for the range. Its spans have the
text of the range, and the span with a byte has the style that the values at this byte ask for. -/
theorem terminalLine_faithful (h : t.Written) (hstart : IsBoundary t.text (t.clamp r).start)
    (hstop : IsBoundary t.text (t.clamp r).stop)
    (hends : ∀ key n, (t.layer key).EndsAt n →
      (t.clamp r).start < n → n < (t.clamp r).stop → IsBoundary t.text n) :
    ∃ line, t.terminalLine? r = some line ∧
      slice? t.text (t.clamp r) = some (line.spans.flatMap (·.text)) ∧
      ∀ offset, (t.clamp r).contains offset = true →
        ∃ span, TerminalSpan.covering? line.spans (offset - (t.clamp r).start) = some span ∧
          span.style = t.cellAt offset := by
  have hle := start_clamp_le t r
  obtain ⟨hruns, hleads, hparts, hall⟩ := runs?_eq hstart hstop fun n hn => by
    obtain ⟨hbound, hafter, hbefore⟩ := mem_inside.1 hn
    obtain ⟨key, hend⟩ := mem_bounds.1 hbound
    exact hends key n hend hafter hbefore
  let shown : Span → TerminalSpan := fun s =>
    ⟨(slice? t.text s).getD [], .ofValues (t.valuesAt s.start)⟩
  have hwidth : ∀ s ∈ between (t.cuts (t.clamp r)),
      s.start + byteLength (shown s).text = s.stop := fun s hs => by
    obtain ⟨before, after, -, -, hlength⟩ := Text.slice?_eq_some_iff.1 (hparts s hs)
    exact hlength
  refine ⟨_, congrArg (Option.map _) hruns, ?_, fun offset hin => ?_⟩
  · rw [hall]
    simp only [List.map_map, List.flatMap_map, Function.comp_def]
  · obtain ⟨hafter, hbefore⟩ := Span.contains_iff.1 hin
    obtain ⟨s, hs, hcontains, hcovering⟩ :=
      TerminalSpan.covering?_of_leads hleads hwidth hafter hbefore
    refine ⟨shown s, ?_, ?_⟩
    · simpa only [List.map_map, Function.comp_def] using hcovering
    · rw [← h.ofValues_valuesAt, h.ordered.valuesAt_eq_of_mem_between hle hs hcontains]

/-- A rounded background on two letters, of which the first one is bold and the second one has a
plain background as well, half transparent. -/
theorem terminalLine_faithful_backgrounds :
    let t := (((ofString "é!").set ⟨0, 3⟩
      (.roundedBackground ⟨⟨255, 0, 0, 255⟩, .full, .text⟩)).set ⟨2, 3⟩
      (.background ⟨0, 0, 255, 128⟩)).set ⟨0, 2⟩ .bold
    ∃ line, t.terminalLine? ⟨0, 9⟩ = some line ∧ line.spans.flatMap (·.text) = "é!".toList ∧
      (∃ span, TerminalSpan.covering? line.spans 1 = some span ∧
        span.style = { background := some ⟨255, 0, 0, 255⟩, bold := true }) ∧
      ∃ span, TerminalSpan.covering? line.spans 2 = some span ∧
        span.style = { background := some ⟨0, 0, 255, 255⟩ } := by
  intro t
  have hwritten : t.Written := .set _ _ (.set _ _ (.set _ _ (.ofChars _)))
  have hclamp : t.clamp ⟨0, 9⟩ = ⟨0, 3⟩ := by decide +kernel
  have hstart : IsBoundary t.text 0 := by decide +kernel
  have hstop : IsBoundary t.text 3 := by decide +kernel
  have hbounds : ∀ n ∈ t.bounds, IsBoundary t.text n := by decide +kernel
  obtain ⟨line, hline, htext, hcells⟩ := terminalLine_faithful (r := ⟨0, 9⟩) hwritten
    (by rwa [hclamp]) (by rwa [hclamp]) fun key n hn _ _ => hbounds n (mem_bounds.2 ⟨key, hn⟩)
  rw [hclamp] at htext hcells
  have hslice : slice? t.text ⟨0, 3⟩ = some "é!".toList := by decide +kernel
  obtain ⟨first, hfirst, hfirst_style⟩ := hcells 1 (by decide)
  obtain ⟨second, hsecond, hsecond_style⟩ := hcells 2 (by decide)
  refine ⟨line, hline, Option.some.inj (htext.symm.trans hslice), ⟨first, hfirst, ?_⟩,
    ⟨second, hsecond, ?_⟩⟩
  · rw [hfirst_style]
    decide +kernel
  · rw [hsecond_style]
    decide +kernel

end StyledText

end ScopePaint
