import ScopePaint.Document
import ScopePaint.Proofs.Library.Loaded
import ScopePaint.Proofs.Text.Lines
import ScopePaint.Proofs.Tokens.StyledLine

/-!
# Styling documents

A document is styled as a whole by appending one line after the other to a text and styling it there.
What is styled there stays as it is, since later lines write behind it only, and the line breaks
between the lines are never written on (`Document.Laid`). So the styling of each line is that of the
line alone (`Document.styled_eq_styleLine`).

Asking for the whole document brings all of its lines up to date, asking for a line only those up to
it; the line is the same in both cases (`Refreshed.ofLines_more`), whatever the lines are and whatever
the library says of them.
-/

set_option autoImplicit false

namespace ScopePaint

open Text (Span byteLength)

/-! ## Bringing more lines up to date -/

/-- Tokenizing keeps the text of a line. -/
theorem DocumentLine.text_of_tokenize {line fresh : DocumentLine} {lib lib' : Library} {id : Nat}
    {theme : Theme} {start : Option LineState}
    (h : line.tokenize lib id theme start = (.ok fresh, lib')) : fresh.text = line.text := by
  unfold DocumentLine.tokenize at h
  split at h
  · exact absurd (congrArg Prod.fst h) (by simp)
  · split at h
    · exact absurd (congrArg Prod.fst h) (by simp)
    · obtain rfl := Except.ok.inj (congrArg Prod.fst h)
      rfl

namespace Refreshed

variable {id : Nat} {theme : Theme} {start : Option LineState} {lib : Library}
  {lines : List DocumentLine}

/-- Without lines there is nothing to bring up to date. -/
theorem ofLines_nil (n : Nat) : ofLines id theme n start lib [] = ⟨.ok (), lib, [], 0, 0⟩ := by
  cases n <;> simp [ofLines]

/-- **What becomes of the first line** does not depend on how many lines are brought up to date: it
fails, or the work goes on behind it. -/
theorem ofLines_cons (id : Nat) (theme : Theme) (start : Option LineState) (lib : Library)
    (line : DocumentLine) (rest : List DocumentLine) :
    (∃ e lib', ∀ n, ofLines id theme (n + 1) start lib (line :: rest) =
      ⟨.error e, lib', line :: rest, 0, 0⟩) ∨
    ∃ fresh lib' behind count, fresh.text = line.text ∧
      behind.map (·.text) = rest.map (·.text) ∧
      ∀ n, ofLines id theme (n + 1) start lib (line :: rest) =
        (ofLines id theme n fresh.endState lib' behind).cons fresh count := by
  cases hstale : line.stale with
  | false =>
    refine Or.inr ⟨line, lib, rest, 0, rfl, rfl, fun n => ?_⟩
    rw [ofLines, if_neg (by simp [hstale])]
  | true =>
    cases htokenize : line.tokenize lib id theme start with
    | mk outcome lib' =>
      cases outcome with
      | error e =>
        refine Or.inl ⟨e, lib', fun n => ?_⟩
        rw [ofLines, if_pos hstale, htokenize]
      | ok fresh =>
        refine Or.inr ⟨fresh, lib', if line.endsLike fresh then rest else markFirst rest, 1,
          DocumentLine.text_of_tokenize htokenize, ?_, fun n => ?_⟩
        · split
          · rfl
          · cases rest <;> rfl
        · rw [ofLines, if_pos hstale, htokenize]

/-- Bringing lines up to date keeps their texts. -/
theorem map_text_ofLines (n : Nat) (start : Option LineState) (lib : Library)
    (lines : List DocumentLine) :
    (ofLines id theme n start lib lines).lines.map (·.text) = lines.map (·.text) := by
  induction n generalizing start lib lines with
  | zero => simp [ofLines]
  | succ n ih =>
    cases lines with
    | nil => rw [ofLines_nil]
    | cons line rest =>
      rcases ofLines_cons id theme start lib line rest with
        ⟨e, lib', herror⟩ | ⟨fresh, lib', behind, count, htext, hbehind, hwork⟩
      · rw [herror]
      · rw [hwork]
        simp only [cons, List.map_cons, ih, htext, hbehind]

/-- Without an error as many lines are up to date as there are and as were asked for. -/
theorem valid_ofLines (n : Nat) (start : Option LineState) (lib : Library)
    (lines : List DocumentLine) (h : (ofLines id theme n start lib lines).outcome = .ok ()) :
    (ofLines id theme n start lib lines).valid = min n lines.length := by
  induction n generalizing start lib lines with
  | zero => simp [ofLines]
  | succ n ih =>
    cases lines with
    | nil => rw [ofLines_nil]; rfl
    | cons line rest =>
      rcases ofLines_cons id theme start lib line rest with
        ⟨e, lib', herror⟩ | ⟨fresh, lib', behind, count, -, hbehind, hwork⟩
      · rw [herror] at h
        exact absurd h (by simp)
      · have hlength : behind.length = rest.length := by
          have := congrArg List.length hbehind
          rwa [List.length_map, List.length_map] at this
        rw [hwork] at h ⊢
        have hvalid := ih _ _ _ h
        simp only [cons, hvalid, hlength, List.length_cons]
        omega

/-- **Bringing more lines up to date** leaves the first ones as bringing only them up to date does. -/
theorem ofLines_more (n m : Nat) (start : Option LineState) (lib : Library)
    (lines : List DocumentLine)
    (h : (ofLines id theme (n + m) start lib lines).outcome = .ok ()) :
    (ofLines id theme n start lib lines).outcome = .ok () ∧
      ∀ index < n, (ofLines id theme n start lib lines).lines[index]? =
        (ofLines id theme (n + m) start lib lines).lines[index]? := by
  induction n generalizing start lib lines with
  | zero => exact ⟨by simp [ofLines], fun index hindex => absurd hindex (Nat.not_lt_zero _)⟩
  | succ n ih =>
    cases lines with
    | nil => simp only [ofLines_nil, implies_true, and_self]
    | cons line rest =>
      rw [Nat.add_right_comm] at h ⊢
      rcases ofLines_cons id theme start lib line rest with
        ⟨e, lib', herror⟩ | ⟨fresh, lib', behind, count, -, -, hwork⟩
      · rw [herror] at h
        exact absurd h (by simp)
      · rw [hwork] at h
        rw [hwork, hwork]
        obtain ⟨hok, hlines⟩ := ih _ _ _ h
        refine ⟨hok, fun index hindex => ?_⟩
        cases index with
        | zero => rfl
        | succ index => exact hlines index (Nat.lt_of_succ_lt_succ hindex)

end Refreshed

namespace Document

variable {d : Document} {lib : Library} {index last : Nat}

/-- A line that is valid is up to date without any work. -/
theorem refresh_of_lt_valid (h : index < d.valid) (lib : Library) :
    d.refresh lib index = (.ok (), lib, d) := by
  have hzero : index + 1 - d.valid = 0 := by omega
  unfold refresh
  rw [hzero, Refreshed.ofLines]
  simp

/-- Bringing lines up to date keeps their texts. -/
theorem map_text_refresh (d : Document) (lib : Library) (index : Nat) :
    (d.refresh lib index).2.2.lines.map (·.text) = d.lines.map (·.text) := by
  unfold refresh
  simp only [List.map_append, Refreshed.map_text_ofLines]
  rw [← List.map_append, List.take_append_drop]

/-- Without an error all lines up to the one that was asked for are valid. -/
theorem lt_valid_refresh (h : (d.refresh lib last).1 = .ok ()) (hle : index ≤ last)
    (hindex : index < d.lines.length) : index < (d.refresh lib last).2.2.valid := by
  have hvalid := Refreshed.valid_ofLines _ _ _ _ h
  unfold refresh
  dsimp only
  rw [hvalid, List.length_drop]
  omega

/-- Bringing lines up to date keeps their number. -/
theorem length_refresh (d : Document) (lib : Library) (index : Nat) :
    (d.refresh lib index).2.2.lines.length = d.lines.length := by
  have h := congrArg List.length (map_text_refresh d lib index)
  rwa [List.length_map, List.length_map] at h

/-- **A line is the same** whether the lines up to it are brought up to date or more of them. -/
theorem refresh_more (hle : index ≤ last) (h : (d.refresh lib last).1 = .ok ()) :
    (d.refresh lib index).1 = .ok () ∧
      (d.refresh lib index).2.2.lines[index]? = (d.refresh lib last).2.2.lines[index]? := by
  have hfront : ∀ {lines : List DocumentLine}, index < d.valid → index < d.lines.length →
      (d.lines.take d.valid ++ lines)[index]? = d.lines[index]? := by
    intro lines hvalid hin
    rw [List.getElem?_append_left (by rw [List.length_take]; omega), List.getElem?_take_of_lt hvalid]
  rcases Nat.lt_or_ge index d.valid with hvalid | hvalid
  · rw [refresh_of_lt_valid hvalid]
    refine ⟨rfl, ?_⟩
    rcases Nat.lt_or_ge index d.lines.length with hin | hout
    · exact (hfront hvalid hin).symm
    · rw [List.getElem?_eq_none hout, List.getElem?_eq_none (by rwa [length_refresh])]
  · obtain ⟨more, hmore⟩ : ∃ more, last + 1 - d.valid = index + 1 - d.valid + more :=
      ⟨last - index, by omega⟩
    have hwork : (Refreshed.ofLines d.grammar d.theme (index + 1 - d.valid + more)
        (d.stateBefore d.valid) lib (d.lines.drop d.valid)).outcome = .ok () := hmore ▸ h
    obtain ⟨hok, hlines⟩ := Refreshed.ofLines_more _ _ _ _ _ hwork
    refine ⟨hok, ?_⟩
    rcases Nat.lt_or_ge index d.lines.length with hin | hout
    · have htake : (d.lines.take d.valid).length = d.valid := by rw [List.length_take]; omega
      unfold refresh
      dsimp only
      rw [hmore, List.getElem?_append_right (by omega), List.getElem?_append_right (by omega),
        hlines _ (by omega)]
    · rw [List.getElem?_eq_none (by rwa [length_refresh]),
        List.getElem?_eq_none (by rwa [length_refresh])]

/-- The styled text of a line that was brought up to date. -/
theorem styleLine_fst (h : (d.refresh lib index).1 = .ok ()) (selected : Bool) :
    (d.styleLine lib index selected).1 = .ok (((d.refresh lib index).2.2.lines[index]?).map
      fun line => (styleTokens line selected).1) := by
  unfold styleLine
  cases hrefresh : d.refresh lib index with
  | mk outcome rest =>
    rw [hrefresh] at h
    dsimp only at h
    subst h
    dsimp only
    cases rest.2.lines[index]? <;> rfl

/-! ## Laying lines out -/

end Document

/-- How many bytes a line takes. -/
def DocumentLine.length (line : DocumentLine) : Nat := byteLength line.text.toList

namespace Document

/-- Where a line starts in the text of all lines. -/
def lineStart : List DocumentLine → Nat → Nat
  | line :: rest, index + 1 => line.length + 1 + lineStart rest index
  | _, _ => 0

/-- The first line starts at the start of the text. -/
theorem lineStart_zero (lines : List DocumentLine) : lineStart lines 0 = 0 := by
  cases lines <;> rfl

/-- Each other line starts behind a line and its line break. -/
theorem lineStart_succ (line : DocumentLine) (rest : List DocumentLine) (index : Nat) :
    lineStart (line :: rest) (index + 1) = line.length + 1 + lineStart rest index := rfl

/-- The next line starts behind the line break. -/
theorem lineStart_behind {lines : List DocumentLine} {line : DocumentLine} {index : Nat}
    (h : lines[index]? = some line) :
    lineStart lines (index + 1) = lineStart lines index + line.length + 1 := by
  induction lines generalizing index with
  | nil => exact absurd h (by simp)
  | cons first rest ih =>
    rw [lineStart_succ]
    cases index with
    | zero =>
      obtain rfl : first = line := by simpa using h
      rw [lineStart_zero, lineStart_zero, Nat.add_zero, Nat.zero_add]
    | succ index =>
      have hrest := ih (by simpa using h)
      rw [lineStart_succ, hrest]
      omega

section Appending

variable {text : StyledText}

/-- A line is appended with its text. -/
theorem text_appendLine (text : StyledText) (line : DocumentLine) (selected : Bool) :
    (appendLine text line selected).1.text = text.text ++ line.text.toList := by
  unfold appendLine
  cases line.tokens with
  | none => rfl
  | some tokens => exact TokenLine.text_apply tokens _ _ selected

/-- Appending a line leaves the text in front of it as it was. -/
theorem keepsFront_appendLine (h : text.Written) (line : DocumentLine) (selected : Bool) :
    text.KeepsFront text.length (appendLine text line selected).1 := by
  have happended := StyledText.keepsFront_append h line.text.toList
  unfold appendLine
  cases line.tokens with
  | none => exact happended
  | some tokens => exact happended.apply tokens selected

/-- An appended line has the styling of the line alone. -/
theorem endsWith_appendLine (h : text.Written) (line : DocumentLine) (selected : Bool) :
    (appendLine text line selected).1.EndsWith text.length (styleTokens line selected).1 := by
  have happended := StyledText.endsWith_append h line.text.toList
  unfold appendLine styleTokens
  cases line.tokens with
  | none => exact happended
  | some tokens => exact happended.apply tokens selected

/-- Lines that were appended to a text, each behind a line break: the text in front of them is as it
was, line breaks have no styling, and each line has that of the line alone. -/
structure Laid (selected : Nat → Bool) (first : Nat) (before : StyledText)
    (lines : List DocumentLine) (t : StyledText) : Prop where
  front : before.KeepsFront before.length t
  text : t.text = before.text ++ lines.flatMap fun line => '\n' :: line.text.toList
  breaks : ∀ index < lines.length, ∀ key, t.get? key (before.length + lineStart lines index) = none
  values : ∀ index line, lines[index]? = some line → ∀ key, ∀ offset < line.length,
    t.get? key (before.length + 1 + lineStart lines index + offset) =
      (styleTokens line (selected (first + index))).1.get? key offset

/-- Lines are appended one after the other, with line breaks between them. -/
theorem appendLines_cons (selected : Nat → Bool) (first : Nat) (text : StyledText)
    (line : DocumentLine) (rest : List DocumentLine) :
    (appendLines selected first text (line :: rest)).1 =
      (appendLines selected (first + 1)
        (appendLine (if first = 0 then text else text.append ['\n']) line (selected first)).1
        rest).1 := by
  rw [appendLines]

/-- A text without lines is laid out. -/
theorem Laid.nil (selected : Nat → Bool) (first : Nat) (h : text.Written) :
    Laid selected first text [] text where
  front := ⟨h, fun _ _ _ => rfl⟩
  text := by simp
  breaks := fun index hindex => absurd hindex (Nat.not_lt_zero _)
  values := fun index line hline => absurd hline (by simp)

/-- Behind a line that was appended the other lines are laid out as behind any text. -/
theorem Laid.cons {selected : Nat → Bool} {first : Nat} {grown t : StyledText}
    {line : DocumentLine} {rest : List DocumentLine} (h : text.Written)
    (hfront : (text.append ['\n']).KeepsFront (text.append ['\n']).length grown)
    (hends : grown.EndsWith (text.append ['\n']).length (styleTokens line (selected first)).1)
    (htext : grown.text = (text.append ['\n']).text ++ line.text.toList)
    (hrest : Laid selected (first + 1) grown rest t) :
    Laid selected first text (line :: rest) t := by
  have hlength : (text.append ['\n']).length = text.length + 1 :=
    StyledText.length_append text ['\n']
  have hgrown : grown.length = text.length + 1 + line.length := by
    have happend := StyledText.length_append (text.append ['\n']) line.text.toList
    unfold StyledText.length at happend hlength ⊢
    rw [htext]
    exact happend.trans (congrArg (· + line.length) hlength)
  -- In front of the other lines the text is the one to which the line was appended.
  have hkept : ∀ key, ∀ offset < text.length + 1,
      t.get? key offset = (text.append ['\n']).get? key offset := by
    intro key offset hoffset
    rw [hrest.front.value key offset (by omega), hfront.value key offset (by omega)]
  refine ⟨⟨hrest.front.written, fun key offset hoffset => hkept key offset (by omega)⟩, ?_, ?_, ?_⟩
  · rw [hrest.text, htext]
    simp [StyledText.append]
  · intro index hindex key
    cases index with
    | zero =>
      rw [lineStart_zero, hkept key _ (by omega)]
      exact h.get?_eq_none (Nat.le_refl _) key
    | succ index =>
      have hbreak := hrest.breaks index (Nat.lt_of_succ_lt_succ hindex) key
      rw [hgrown] at hbreak
      rw [lineStart_succ, ← hbreak]
      congr 1
      omega
  · intro index other hother key offset hoffset
    cases index with
    | zero =>
      obtain rfl : line = other := by simpa using hother
      rw [lineStart_zero, Nat.add_zero, hrest.front.value key _ (by omega), ← hlength]
      exact hends.value key offset
    | succ index =>
      have hline := hrest.values index other (by simpa using hother) key offset hoffset
      rw [hgrown, Nat.add_assoc first 1 index, Nat.add_comm 1 index] at hline
      rw [lineStart_succ, ← hline]
      congr 1
      omega

/-- **Appending lines lays them out** behind a text. -/
theorem laid_appendLines (selected : Nat → Bool) (h : text.Written) (first : Nat)
    (hfirst : first ≠ 0) (lines : List DocumentLine) :
    Laid selected first text lines (appendLines selected first text lines).1 := by
  induction lines generalizing text first with
  | nil => exact .nil selected first h
  | cons line rest ih =>
    have hbroken := (StyledText.keepsFront_append h ['\n']).written
    have hfront := keepsFront_appendLine hbroken line (selected first)
    have hends := endsWith_appendLine hbroken line (selected first)
    have htext := text_appendLine (text.append ['\n']) line (selected first)
    rw [appendLines_cons, if_neg hfirst]
    exact .cons h hfront hends htext (ih hfront.written (first + 1) (Nat.succ_ne_zero first))

/-- **Appending all lines of a document** puts line breaks without styling between them, and gives
each of them the styling of the line alone. -/
theorem appendLines_zero (selected : Nat → Bool) (lines : List DocumentLine) :
    let t := (appendLines selected 0 (.ofChars []) lines).1
    t.text = Text.joinLines (lines.map (·.text.toList)) ∧
    ∀ index line, lines[index]? = some line → ∀ key,
      (index + 1 < lines.length → t.get? key (lineStart lines index + line.length) = none) ∧
      ∀ offset < line.length, t.get? key (lineStart lines index + offset) =
        (styleTokens line (selected index)).1.get? key offset := by
  cases lines with
  | nil => exact ⟨rfl, fun index line hline => absurd hline (by simp)⟩
  | cons line rest =>
    have hfirst := keepsFront_appendLine (.ofChars []) line (selected 0)
    have hends := endsWith_appendLine (.ofChars []) line (selected 0)
    have htext := text_appendLine (.ofChars []) line (selected 0)
    rw [appendLines_cons, if_pos rfl]
    generalize (appendLine (.ofChars []) line (selected 0)).1 = grown at hfirst hends htext ⊢
    have hlength : grown.length = line.length := congrArg byteLength htext
    have hlaid := laid_appendLines selected hfirst.written 1 (Nat.succ_ne_zero 0) rest
    generalize (appendLines selected (0 + 1) grown rest).1 = t at hlaid ⊢
    refine ⟨?_, fun index other hother key => ⟨fun hlast => ?_, fun offset hoffset => ?_⟩⟩
    · rw [hlaid.text, htext]
      simp [Text.joinLines, StyledText.ofChars, List.flatMap_map]
    · have hbehind := lineStart_behind hother
      have hbreak := hlaid.breaks index (by simpa using hlast) key
      rw [lineStart_succ] at hbehind
      rw [← hbreak]
      congr 1
      omega
    · cases index with
      | zero =>
        obtain rfl : line = other := by simpa using hother
        rw [lineStart_zero, hlaid.front.value key _ (by omega)]
        exact hends.value key offset
      | succ index =>
        have hvalue := hlaid.values index other (by simpa using hother) key offset hoffset
        rw [Nat.add_comm 1 index] at hvalue
        rw [lineStart_succ, ← hvalue, hlength]

end Appending

/-! ## Styling all lines -/

variable {d d' : Document} {lib lib' : Library} {selection : Option Span} {t : StyledText}

/-- Lines with the same texts start at the same places. -/
theorem lineStart_congr {lines others : List DocumentLine}
    (h : lines.map (·.text) = others.map (·.text)) (index : Nat) :
    lineStart lines index = lineStart others index := by
  induction lines generalizing others index with
  | nil =>
    obtain rfl : others = [] := by simpa using h.symm
    rfl
  | cons line rest ih =>
    cases others with
    | nil => exact absurd h (by simp)
    | cons other others =>
      obtain ⟨htext, hrest⟩ := List.cons.inj h
      cases index with
      | zero => rfl
      | succ index =>
        have hlength : line.length = other.length :=
          congrArg (fun text : String => byteLength text.toList) htext
        rw [lineStart_succ, lineStart_succ, hlength, ih hrest]

/-- A styled line has the text of the line. -/
theorem text_styleTokens (line : DocumentLine) (selected : Bool) :
    (styleTokens line selected).1.text = line.text.toList := by
  unfold styleTokens
  cases line.tokens with
  | none => rfl
  | some tokens => exact TokenLine.text_apply tokens _ _ selected

/-- A document is styled as a whole once all of its lines are up to date. -/
theorem of_styled (h : d.styled lib selection = (.ok t, lib', d')) :
    (d.refresh lib (d.lines.length - 1)).1 = .ok () ∧
      d' = (d.refresh lib (d.lines.length - 1)).2.2 ∧
      t = (appendLines (isSelected selection) 0 (.ofChars []) d'.lines).1 := by
  unfold styled at h
  split at h
  · exact absurd (congrArg Prod.fst h) (by simp)
  · rename_i fresh hrefresh
    obtain ⟨ht, -, rfl⟩ : _ ∧ _ ∧ fresh = d' := by simpa using h
    rw [hrefresh]
    exact ⟨rfl, rfl, ht.symm⟩

/-- **Styling a document is styling its lines.** If a document is styled as a whole, its text is that
of the lines with line breaks between them, and no line break has any styling. For each line, to ask
for that line alone, before or after, gives a text that has the same values at each of its bytes as
the whole has at the byte as far behind the start of the line. -/
theorem styled_eq_styleLine (h : d.styled lib selection = (.ok t, lib', d')) :
    t.text = (Text.join "\n" (d.lines.map (·.text))).toList ∧
    ∀ index line, d.lines[index]? = some line →
      (index + 1 < d.lines.length →
        t.valuesAt (lineStart d.lines index + line.length) = []) ∧
      ∃ u : StyledText,
        (d.styleLine lib index (isSelected selection index)).1 = .ok (some u) ∧
        (∀ later, (d'.styleLine later index (isSelected selection index)).1 = .ok (some u)) ∧
        u.text = line.text.toList ∧
        ∀ offset < u.length, t.valuesAt (lineStart d.lines index + offset) = u.valuesAt offset := by
  obtain ⟨hok, hd', ht⟩ := of_styled h
  have htexts : d'.lines.map (·.text) = d.lines.map (·.text) := by rw [hd', map_text_refresh]
  have hcount : d'.lines.length = d.lines.length := by rw [hd', length_refresh]
  obtain ⟨htext, hlines⟩ := appendLines_zero (isSelected selection) d'.lines
  rw [← ht] at htext hlines
  refine ⟨?_, fun index line hline => ?_⟩
  · rw [htext, Text.toList_join, ← htexts, List.map_map]
    rfl
  have hindex : index < d.lines.length := (List.getElem?_eq_some_iff.1 hline).1
  have hle : index ≤ d.lines.length - 1 := by omega
  -- The line when it is up to date: its tokens are new, its text is not.
  obtain ⟨fresh, hfresh, hsame⟩ : ∃ fresh, d'.lines[index]? = some fresh ∧ fresh.text = line.text := by
    have hget := congrArg (·[index]?) htexts
    simp only [List.getElem?_map, hline, Option.map_some] at hget
    exact Option.map_eq_some_iff.1 hget
  have hlength : fresh.length = line.length := by unfold DocumentLine.length; rw [hsame]
  obtain ⟨hbefore, hother⟩ := refresh_more hle hok
  have hvalid : index < d'.valid := hd' ▸ lt_valid_refresh hok hle hindex
  refine ⟨fun hlast => ?_, (styleTokens fresh (isSelected selection index)).1, ?_, ?_, ?_, ?_⟩
  · have hnone := fun key => (hlines index fresh hfresh key).1 (by omega)
    rw [lineStart_congr htexts, hlength] at hnone
    simp [StyledText.valuesAt, hnone]
  · rw [styleLine_fst hbefore, hother, ← hd', hfresh]
    rfl
  · intro later
    rw [styleLine_fst (by rw [refresh_of_lt_valid hvalid]), refresh_of_lt_valid hvalid, hfresh]
    rfl
  · rw [text_styleTokens, hsame]
  · intro offset hoffset
    have hin : offset < fresh.length := by
      unfold StyledText.length at hoffset
      rwa [text_styleTokens] at hoffset
    rw [← lineStart_congr htexts]
    exact StyledText.valuesAt_congr fun key => (hlines index fresh hfresh key).2 offset hin

/-- Two lines with brackets, the second of them selected: the line break has no styling, and the
byte behind it has that of the first one of the second line. -/
theorem styled_eq_styleLine_brackets :
    let d := ofText 0 Theme.builtin "[a\n]"
    ∃ t lib' d', d.styled bracketLibrary (some ⟨1, 2⟩) = (.ok t, lib', d') ∧ t.valuesAt 2 = [] ∧
      ∃ u, (d.styleLine bracketLibrary 1 true).1 = .ok (some u) ∧ u.text = [']'] ∧
        t.valuesAt 3 = u.valuesAt 0 := by
  intro d
  have hok : (d.styled bracketLibrary (some ⟨1, 2⟩)).1.isOk = true := by decide +kernel
  cases h : d.styled bracketLibrary (some ⟨1, 2⟩) with
  | mk outcome rest =>
    cases outcome with
    | error e => exact absurd (h ▸ hok) (by simp [Except.isOk, Except.toBool])
    | ok t =>
      obtain ⟨-, hlines⟩ := styled_eq_styleLine h
      have hd : d.lines = [.ofText "[a", .ofText "]"] := by
        have hsplit : splitLines "[a\n]" = ["[a", "]"] := by decide +kernel
        exact congrArg (List.map DocumentLine.ofText) hsplit
      rw [hd] at hlines
      obtain ⟨hbreak, -⟩ := hlines 0 _ rfl
      obtain ⟨-, u, hu, -, htext, hvalues⟩ := hlines 1 _ rfl
      refine ⟨t, rest.1, rest.2, rfl, hbreak (by decide), u, hu, htext, ?_⟩
      exact hvalues 0 (by unfold StyledText.length; rw [htext]; decide +kernel)

end Document

end ScopePaint
