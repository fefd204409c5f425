import Mathlib.Data.List.DropRight
import ScopePaint.Proofs.Outcome
import ScopePaint.Proofs.Text.Lines
import ScopePaint.Proofs.Theme.ColorTexts
import ScopePaint.Theme.Selectors

/-!
# What settings selectors stand for

A selector between commas stands for one setting: its last part is the scope and the parts before it
are wanted around. Blank selectors and those with operators are meant to stand for nothing
(`hasOperator`). Operators are looked for only where one of four characters gives a reason to, so
that less is skipped (`isSkipped`): a closing parenthesis that stands alone in a selector without
these characters is missed (`IsMisread`), as in `( comment, string )`, and becomes a scope.

White space around the selectors of an entry makes no difference (`SelectorEntry.settings_eq`), so
the settings of a theme are known entry by entry (`SelectorTheme.settings_eq_ok`). They are those
that are meant if and only if no selector is misread. What is misread never styles the root scope,
so that the same themes are accepted (`SelectorTheme.toTheme_as_meant`).
-/

set_option autoImplicit false

namespace ScopePaint

/-! ## White space at the ends of texts -/

namespace Unicode

variable {c : Char} {cs : List Char}

/-- White space in front of a text separates nothing. -/
theorem parts_cons (h : isWhiteSpace c = true) : parts (c :: cs) = parts cs := by
  rw [parts, parts.go, if_pos h]
  rfl

/-- White space behind a text ends the part that was begun. -/
theorem parts_go_concat (h : isWhiteSpace c = true) (part : List Char) :
    parts.go part (cs ++ [c]) = parts.go part cs := by
  induction cs generalizing part with
  | nil =>
    rw [List.nil_append, parts.go, parts.go, if_pos h]
    cases part <;> rfl
  | cons d rest ih => simp only [List.cons_append, parts.go, ih]

/-- White space behind a text separates nothing. -/
theorem parts_concat (h : isWhiteSpace c = true) : parts (cs ++ [c]) = parts cs :=
  parts_go_concat h []

/-- The characters of parts are those of the part that was begun or of the text. -/
theorem mem_of_mem_parts_go {part piece : List Char} (h : piece ∈ parts.go part cs) :
    ∀ d ∈ piece, d ∈ part ∨ d ∈ cs := by
  induction cs generalizing part with
  | nil =>
    intro d hd
    rw [parts.go] at h
    split at h
    · exact absurd h List.not_mem_nil
    · obtain rfl := List.mem_singleton.1 h
      exact Or.inl (List.mem_reverse.1 hd)
  | cons c rest ih =>
    intro d hd
    rw [parts.go] at h
    by_cases hc : isWhiteSpace c = true
    · rw [if_pos hc] at h
      by_cases hpart : part.isEmpty = true
      · rw [if_pos hpart] at h
        have hrest := (ih h d hd).resolve_left List.not_mem_nil
        exact Or.inr (List.mem_cons_of_mem c hrest)
      · rw [if_neg hpart] at h
        rcases List.mem_cons.1 h with rfl | h
        · exact Or.inl (List.mem_reverse.1 hd)
        · have hrest := (ih h d hd).resolve_left List.not_mem_nil
          exact Or.inr (List.mem_cons_of_mem c hrest)
    · rw [if_neg hc] at h
      rcases ih h d hd with hfront | hrest
      · rcases List.mem_cons.1 hfront with rfl | hfront
        · exact Or.inr List.mem_cons_self
        · exact Or.inl hfront
      · exact Or.inr (List.mem_cons_of_mem c hrest)

/-- Parts are made of characters of the text. -/
theorem mem_of_mem_parts {piece : List Char} (h : piece ∈ parts cs) {d : Char} (hd : d ∈ piece) :
    d ∈ cs :=
  (mem_of_mem_parts_go h d hd).resolve_left List.not_mem_nil

/-- A word goes on with the part that was begun. -/
theorem parts_go_append {word : List Char} (h : ∀ c ∈ word, isWhiteSpace c = false)
    (part rest : List Char) :
    parts.go part (word ++ rest) = parts.go (word.reverse ++ part) rest := by
  induction word generalizing part with
  | nil => rfl
  | cons c word ih =>
    have hc : isWhiteSpace c = false := h c List.mem_cons_self
    rw [List.cons_append, parts.go, if_neg (by simp [hc]),
      ih (fun d hd => h d (List.mem_cons_of_mem c hd)), List.reverse_cons, List.append_assoc]
    rfl

/-- A blank is white space. -/
theorem isWhiteSpace_blank : isWhiteSpace ' ' = true := by
  unfold isWhiteSpace
  rw [whiteSpaceRanges_items]
  decide +kernel

/-- The parts of words with a blank behind each of them are the words. -/
theorem parts_flatMap_blank {words : List (List Char)}
    (h : ∀ word ∈ words, word ≠ [] ∧ ∀ c ∈ word, isWhiteSpace c = false) :
    parts (words.flatMap fun word => word ++ [' ']) = words := by
  induction words with
  | nil => rfl
  | cons word rest ih =>
    obtain ⟨hne, hword⟩ := h word List.mem_cons_self
    rw [List.flatMap_cons, List.append_assoc, parts, parts_go_append hword, List.append_nil,
      List.singleton_append, parts.go, if_pos isWhiteSpace_blank, if_neg (by simpa using hne),
      List.reverse_reverse]
    exact congrArg (word :: ·) (ih fun w hw => h w (List.mem_cons_of_mem word hw))

/-- White space in front of a text separates nothing. -/
theorem parts_append {front : List Char} (h : ∀ c ∈ front, isWhiteSpace c = true) :
    parts (front ++ cs) = parts cs := by
  induction front with
  | nil => rfl
  | cons c rest ih =>
    rw [List.cons_append, parts_cons (h c List.mem_cons_self),
      ih fun d hd => h d (List.mem_cons_of_mem c hd)]

/-- A text of white space has no parts. -/
theorem parts_eq_nil (h : ∀ c ∈ cs, isWhiteSpace c = true) : parts cs = [] :=
  (congrArg parts (List.append_nil cs).symm).trans (parts_append h)

end Unicode

namespace Text

section FilterMap

variable {α : Type} {separator c : Char} {cs : List Char} {f : List Char → Option α}

/-- A character in front of a text is in front of its first piece. -/
theorem filterMap_splitAt_cons (hc : c ≠ separator) (hf : ∀ piece, f (c :: piece) = f piece) :
    (splitAt separator (c :: cs)).filterMap f = (splitAt separator cs).filterMap f := by
  obtain ⟨piece, pieces, hrest, hcons⟩ := splitAt_cons separator c cs
  rw [hcons, hrest, if_neg hc, List.filterMap_cons, List.filterMap_cons, hf]

/-- A character behind a text is behind its last piece. -/
theorem splitAt_concat (cs : List Char) (hc : c ≠ separator) :
    ∃ pieces piece, splitAt separator cs = pieces ++ [piece] ∧
      splitAt separator (cs ++ [c]) = pieces ++ [piece ++ [c]] := by
  induction cs with
  | nil => exact ⟨[], [], rfl, by simp [splitAt, hc]⟩
  | cons d rest ih =>
    obtain ⟨pieces, piece, hrest, hconcat⟩ := ih
    rw [List.cons_append, splitAt, splitAt, hrest, hconcat]
    split
    · exact ⟨[] :: pieces, piece, rfl, rfl⟩
    · cases pieces with
      | nil => exact ⟨[], d :: piece, rfl, rfl⟩
      | cons first others => exact ⟨(d :: first) :: others, piece, rfl, rfl⟩

/-- A character that does not count behind a piece does not count behind the text. -/
theorem filterMap_splitAt_concat (hc : c ≠ separator)
    (hf : ∀ piece, f (piece ++ [c]) = f piece) :
    (splitAt separator (cs ++ [c])).filterMap f = (splitAt separator cs).filterMap f := by
  obtain ⟨pieces, piece, hrest, hconcat⟩ := splitAt_concat cs hc
  rw [hrest, hconcat, List.filterMap_append, List.filterMap_append, List.filterMap_cons,
    List.filterMap_cons, hf]

/-- What is read from pieces as if white space around them were not there is read so from a text
without the white space at its ends. -/
theorem filterMap_splitAt_trim (hseparator : Unicode.isWhiteSpace separator = false)
    (hfront : ∀ c piece, Unicode.isWhiteSpace c = true → f (c :: piece) = f piece)
    (hback : ∀ c piece, Unicode.isWhiteSpace c = true → f (piece ++ [c]) = f piece) :
    (splitAt separator (trim cs)).filterMap f = (splitAt separator cs).filterMap f := by
  have hne : ∀ c, Unicode.isWhiteSpace c = true → c ≠ separator := by
    rintro c hc rfl
    exact absurd hc (by simp [hseparator])
  have hend : ∀ cs : List Char,
      (splitAt separator (cs.rdropWhile Unicode.isWhiteSpace)).filterMap f =
        (splitAt separator cs).filterMap f := by
    intro cs
    induction cs using List.reverseRecOn with
    | nil => rfl
    | append_singleton rest c ih =>
      by_cases hc : Unicode.isWhiteSpace c = true
      · rw [List.rdropWhile_concat_pos _ _ _ hc, ih,
          filterMap_splitAt_concat (hne c hc) fun piece => hback c piece hc]
      · rw [List.rdropWhile_concat_neg _ _ _ hc]
  have hstart : ∀ cs : List Char,
      (splitAt separator (cs.dropWhile Unicode.isWhiteSpace)).filterMap f =
        (splitAt separator cs).filterMap f := by
    intro cs
    induction cs with
    | nil => rfl
    | cons c rest ih =>
      by_cases hc : Unicode.isWhiteSpace c = true
      · rw [List.dropWhile_cons_of_pos hc, ih,
          filterMap_splitAt_cons (hne c hc) fun piece => hfront c piece hc]
      · rw [List.dropWhile_cons_of_neg hc]
  exact (hend _).trans (hstart cs)

end FilterMap

/-- Nothing is left of a text of white space, and of no other one. -/
theorem trim_eq_nil_iff {cs : List Char} :
    trim cs = [] ↔ ∀ c ∈ cs, Unicode.isWhiteSpace c = true := by
  have htrim : trim cs = (cs.dropWhile Unicode.isWhiteSpace).rdropWhile Unicode.isWhiteSpace := rfl
  rw [htrim, List.rdropWhile_eq_nil_iff]
  constructor
  · intro h c hc
    rw [← List.takeWhile_append_dropWhile (p := Unicode.isWhiteSpace) (l := cs)] at hc
    rcases List.mem_append.1 hc with hfront | hback
    · exact List.mem_takeWhile_imp hfront
    · exact h c hback
  · exact fun h c hc => h c (List.dropWhile_suffix _ |>.mem hc)

end Text

/-! ## Selectors -/

/-- White space only. -/
def IsBlank (cs : List Char) : Prop := ∀ c ∈ cs, Unicode.isWhiteSpace c = true

instance (cs : List Char) : Decidable (IsBlank cs) := List.decidableBAll _ cs

/-- Four characters hint at an operator. -/
theorem hintsAtOperator_iff {c : Char} :
    hintsAtOperator c = true ↔ c ∈ ['-', '|', '(', '&'] := by
  simp [hintsAtOperator, or_assoc]

/-- White space gives no reason to look for operators. -/
theorem hintsAtOperator_of_isWhiteSpace {c : Char} (h : Unicode.isWhiteSpace c = true) :
    hintsAtOperator c = false := by
  have hhints : (['-', '|', '(', '&'].all fun c => !Unicode.isWhiteSpace c) = true := by
    unfold Unicode.isWhiteSpace
    rw [Unicode.whiteSpaceRanges_items]
    decide +kernel
  cases hhint : hintsAtOperator c with
  | false => rfl
  | true =>
    have hnot := List.all_eq_true.1 hhints c (hintsAtOperator_iff.1 hhint)
    exact absurd hnot (by simp [h])

/-- Every operator gives a reason to look for it, except for a closing parenthesis. -/
theorem exists_hint_of_isSelectorOperator {part : List Char} (h : isSelectorOperator part = true) :
    part = [')'] ∨ ∃ c ∈ part, hintsAtOperator c = true := by
  unfold isSelectorOperator at h
  split at h
  · exact Or.inr ⟨'|', List.mem_cons_self, rfl⟩
  · exact Or.inr ⟨'&', List.mem_cons_self, rfl⟩
  · exact Or.inl rfl
  · exact Or.inr ⟨'-', List.mem_cons_self, rfl⟩
  · exact Or.inr ⟨'(', List.mem_cons_self, rfl⟩
  · exact absurd h (by simp)

namespace Selector

/-- Some part of a selector is an operator. -/
def hasOperator (selector : List Char) : Bool := (Unicode.parts selector).any isSelectorOperator

/-- Operators are looked for and found. -/
def isSkipped (selector : List Char) : Bool :=
  selector.any hintsAtOperator && hasOperator selector

/-- A closing parenthesis stands alone in a selector, and nothing gives a reason to look for it. -/
def IsMisread (selector : List Char) : Prop :=
  [')'] ∈ Unicode.parts selector ∧ ∀ c ∈ selector, c ≠ '-' ∧ c ≠ '|' ∧ c ≠ '(' ∧ c ≠ '&'

/-- The setting that a selector stands for by its parts: the last one is the scope. -/
def setting? (attributes : List ThemeAttribute) (selector : List Char) : Option ThemeSetting :=
  let parts := (Unicode.parts selector).map fun part => ScopeName.mk (String.ofList part)
  parts.getLast?.map fun scope => { scope, parents := parts.dropLast, attributes }

/-- The setting of a selector if it is not blank and not one of those to be skipped. -/
def settingWithout? (skips : List Char → Bool) (attributes : List ThemeAttribute)
    (selector : List Char) : Option ThemeSetting :=
  if IsBlank selector ∨ skips selector = true then none else setting? attributes selector

variable {selector : List Char} {attributes : List ThemeAttribute} {s : ThemeSetting}

/-- **What is missed**: the operators that are not found are closing parentheses. -/
theorem isMisread_iff :
    IsMisread selector ↔ hasOperator selector = true ∧ isSkipped selector = false := by
  have hhints : (∀ c ∈ selector, c ≠ '-' ∧ c ≠ '|' ∧ c ≠ '(' ∧ c ≠ '&') ↔
      selector.any hintsAtOperator = false := by
    simp [hintsAtOperator, and_assoc]
  rw [IsMisread, hhints]
  constructor
  · rintro ⟨hpart, hnone⟩
    exact ⟨List.any_eq_true.2 ⟨_, hpart, rfl⟩, by simp [isSkipped, hnone]⟩
  · rintro ⟨hoperator, hskipped⟩
    have hnone : selector.any hintsAtOperator = false := by
      simpa [isSkipped, hoperator] using hskipped
    obtain ⟨part, hpart, hop⟩ := List.any_eq_true.1 hoperator
    rcases exists_hint_of_isSelectorOperator hop with rfl | ⟨c, hc, hhint⟩
    · exact ⟨hpart, hnone⟩
    · exact absurd hhint (List.any_eq_false.1 hnone c (Unicode.mem_of_mem_parts hpart hc))

/-- What is skipped has an operator. -/
theorem hasOperator_of_isSkipped (h : isSkipped selector = true) : hasOperator selector = true :=
  (Bool.and_eq_true_iff.1 h).2

/-- A selector with parts stands for a setting, unless it is one of those to be skipped. -/
theorem settingWithout?_of_parts {skips : List Char → Bool} {scope : List Char}
    {parents : List (List Char)} (h : (Unicode.parts selector).reverse = scope :: parents) :
    settingWithout? skips attributes selector = if skips selector = true then none else
      some { scope := ⟨String.ofList scope⟩,
             parents := parents.reverse.map fun part => ⟨String.ofList part⟩, attributes } := by
  have hblank : ¬ IsBlank selector := by
    intro hblank
    rw [Unicode.parts_eq_nil hblank] at h
    exact absurd h (by simp)
  have hparts : Unicode.parts selector = parents.reverse ++ [scope] := by
    rw [← List.reverse_reverse (Unicode.parts selector), h, List.reverse_cons]
  simp only [settingWithout?, hblank, false_or]
  simp [setting?, hparts]

end Selector

/-! ## What is read and what is meant -/

/-- Lists that are made of sublists are sublists. -/
theorem flatMap_sublist {α β : Type} {f g : α → List β} {l : List α}
    (h : ∀ a ∈ l, (f a).Sublist (g a)) : (l.flatMap f).Sublist (l.flatMap g) := by
  induction l with
  | nil => exact .slnil
  | cons a rest ih =>
    exact (h a List.mem_cons_self).append (ih fun b hb => h b (List.mem_cons_of_mem a hb))

/-- Lists of parts, some of them with less, are the same only if all parts are. -/
theorem flatMap_eq_iff_of_sublist {α β : Type} {f g : α → List β} {l : List α}
    (h : ∀ a ∈ l, (f a).Sublist (g a)) : l.flatMap g = l.flatMap f ↔ ∀ a ∈ l, g a = f a := by
  refine ⟨fun heq => ?_, List.flatMap_congr⟩
  induction l with
  | nil => exact fun a ha => absurd ha List.not_mem_nil
  | cons a rest ih =>
    have hrest : ∀ b ∈ rest, (f b).Sublist (g b) := fun b hb => h b (List.mem_cons_of_mem a hb)
    have hfirst := h a List.mem_cons_self
    rw [List.flatMap_cons, List.flatMap_cons] at heq
    -- No part is longer on the right, so if the lists are equally long, each two parts are.
    have hlength := congrArg List.length heq
    rw [List.length_append, List.length_append] at hlength
    have hle := hfirst.length_le
    have hle' := (flatMap_sublist hrest).length_le
    have hsame : f a = g a := hfirst.eq_of_length (by omega)
    rw [hsame] at heq
    intro b hb
    rcases List.mem_cons.1 hb with rfl | hb
    · exact hsame.symm
    · exact ih hrest (List.append_cancel_left heq) b hb

namespace Selector

variable {selector : List Char} {attributes : List ThemeAttribute} {s : ThemeSetting}

/-- A selector that is not misread gives the same setting in both ways. -/
theorem settingWithout?_of_not_isMisread (h : ¬ IsMisread selector) :
    settingWithout? isSkipped attributes selector =
      settingWithout? hasOperator attributes selector := by
  have hsame : isSkipped selector = hasOperator selector := by
    cases hskipped : isSkipped selector with
    | true => rw [hasOperator_of_isSkipped hskipped]
    | false =>
      cases hoperator : hasOperator selector with
      | false => rfl
      | true => exact absurd (isMisread_iff.2 ⟨hoperator, hskipped⟩) h
  rw [settingWithout?, settingWithout?, hsame]

/-- **What is misread** becomes a setting, which does not style the root scope. -/
theorem settingWithout?_of_isMisread (attributes : List ThemeAttribute)
    (h : IsMisread selector) :
    ∃ s, settingWithout? isSkipped attributes selector = some s ∧
      settingWithout? hasOperator attributes selector = none ∧ s.isRoot = false := by
  obtain ⟨hoperator, hskipped⟩ := isMisread_iff.1 h
  have hmem : [')'] ∈ (Unicode.parts selector).reverse := List.mem_reverse.2 h.1
  cases hparts : (Unicode.parts selector).reverse with
  | nil => exact absurd hmem (by simp [hparts])
  | cons scope parents =>
    refine ⟨_, (settingWithout?_of_parts hparts).trans (if_neg (by simp [hskipped])),
      if_pos (Or.inr hoperator), ?_⟩
    rw [hparts] at hmem
    cases parents with
    | nil =>
      -- The parenthesis is the only part, so the scope is not the root scope.
      obtain rfl := List.mem_singleton.1 hmem
      rfl
    | cons parent others => simp [ThemeSetting.isRoot]

/-- Less is skipped than what has operators. -/
theorem settingWithout?_sublist (attributes : List ThemeAttribute) (selector : List Char) :
    (settingWithout? hasOperator attributes selector).toList.Sublist
      (settingWithout? isSkipped attributes selector).toList := by
  by_cases h : IsMisread selector
  · obtain ⟨s, -, hnone, -⟩ := settingWithout?_of_isMisread attributes h
    rw [hnone]
    exact List.nil_sublist _
  · rw [settingWithout?_of_not_isMisread h]

/-- Both ways give the same if the selector is not misread. -/
theorem settingWithout?_eq_iff :
    settingWithout? isSkipped attributes selector =
      settingWithout? hasOperator attributes selector ↔ ¬ IsMisread selector := by
  refine ⟨fun heq h => ?_, settingWithout?_of_not_isMisread⟩
  obtain ⟨s, hsome, hnone, -⟩ := settingWithout?_of_isMisread attributes h
  rw [heq, hnone] at hsome
  exact absurd hsome (by simp)

/-- A setting for the root is given in both ways. -/
theorem settingWithout?_of_isRoot (h : settingWithout? isSkipped attributes selector = some s)
    (hroot : s.isRoot = true) : settingWithout? hasOperator attributes selector = some s := by
  by_cases hmisread : IsMisread selector
  · obtain ⟨s', hsome, -, hs'⟩ := settingWithout?_of_isMisread attributes hmisread
    obtain rfl := Option.some.inj (hsome.symm.trans h)
    exact absurd hroot (by simp [hs'])
  · exact (settingWithout?_of_not_isMisread hmisread).symm.trans h

end Selector

/-! ## Entries -/

namespace SelectorEntry

/-- An entry without a selector, or with white space in its place, styles all text. -/
def IsGlobal (e : SelectorEntry) : Prop := ∀ s ∈ e.selectors, IsBlank s.toList

instance (e : SelectorEntry) : Decidable e.IsGlobal :=
  inferInstanceAs (Decidable (∀ s ∈ e.selectors, IsBlank s.toList))

/-- The selectors of an entry, between commas. -/
def pieces (e : SelectorEntry) : List (List Char) :=
  Text.splitAt ',' (e.selectors.getD "").toList

/-- The settings of an entry: two if it styles all text, and else those of its selectors except for
those to be skipped. -/
def settingsWithout (skips : List Char → Bool) (e : SelectorEntry)
    (attributes : List ThemeAttribute) : List ThemeSetting :=
  if e.IsGlobal then [{ scope := ⟨rootScope⟩, attributes }, { scope := ⟨"text"⟩, attributes }]
  else e.pieces.filterMap (Selector.settingWithout? skips attributes)

variable {e : SelectorEntry} {attributes : List ThemeAttribute}

/-- Settings are given by passing over what is skipped. -/
theorem settingOf_eq (attributes : List ThemeAttribute) :
    settingOf attributes = Selector.settingWithout? Selector.isSkipped attributes := by
  funext selector
  have hskips : Selector.isSkipped selector = true ↔ selector.any hintsAtOperator = true ∧
      (Unicode.parts selector).any isSelectorOperator = true := Bool.and_eq_true_iff
  unfold settingOf Selector.ofChars
  dsimp only
  by_cases hskipped : Selector.isSkipped selector = true
  · rw [if_pos (hskips.1 hskipped), Selector.settingWithout?, if_pos (Or.inr hskipped)]
  · rw [if_neg fun h => hskipped (hskips.2 h)]
    cases hparts : (Unicode.parts selector).reverse with
    | nil =>
      have hnone : Selector.setting? attributes selector = none := by
        rw [Selector.setting?, List.reverse_eq_nil_iff.1 hparts]
        rfl
      rw [Selector.settingWithout?, hnone, ite_self]
    | cons scope parents =>
      exact ((Selector.settingWithout?_of_parts hparts).trans (if_neg hskipped)).symm

/-- A setting depends on the parts of a selector and on its hints only. -/
theorem settingOf_congr {selector selector' : List Char}
    (hparts : Unicode.parts selector = Unicode.parts selector')
    (hhints : selector.any hintsAtOperator = selector'.any hintsAtOperator) :
    settingOf attributes selector = settingOf attributes selector' := by
  unfold settingOf Selector.ofChars
  rw [hparts, hhints]

/-- An entry is global if its selectors are white space. -/
theorem isGlobal_some {text : String} {style : SelectorStyle} :
    IsGlobal ⟨some text, style⟩ ↔ Text.trim text.toList = [] := by
  rw [Text.trim_eq_nil_iff]
  simp [IsGlobal, IsBlank]

/-- The text of selectors is there unless the entry styles all text. -/
theorem selectorText?_some (text : String) (style : SelectorStyle) :
    selectorText? ⟨some text, style⟩ =
      if IsGlobal ⟨some text, style⟩ then none else some (Text.trim text.toList) := by
  unfold selectorText?
  dsimp only [Option.map_some]
  by_cases htrim : Text.trim text.toList = []
  · rw [if_pos (isGlobal_some.2 htrim), htrim]
  · rw [if_neg fun h => htrim (isGlobal_some.1 h)]
    cases hcs : Text.trim text.toList with
    | nil => exact absurd hcs htrim
    | cons c cs => rfl

/-- **How entries are read**: white space around selectors makes no difference. -/
theorem settings_eq (e : SelectorEntry) (attributes : List ThemeAttribute) :
    e.settings attributes = e.settingsWithout Selector.isSkipped attributes := by
  have hcomma : Unicode.isWhiteSpace ',' = false := by
    unfold Unicode.isWhiteSpace
    rw [Unicode.whiteSpaceRanges_items]
    decide +kernel
  obtain ⟨_ | text, style⟩ := e
  · rfl
  · unfold settings settingsWithout pieces
    rw [selectorText?_some]
    by_cases hglobal : IsGlobal ⟨some text, style⟩
    · rw [if_pos hglobal, if_pos hglobal]
    · rw [if_neg hglobal, if_neg hglobal, ← settingOf_eq]
      refine Text.filterMap_splitAt_trim hcomma (fun c piece hc => ?_) fun c piece hc => ?_
      · exact settingOf_congr (Unicode.parts_cons hc)
          (by rw [List.any_cons, hintsAtOperator_of_isWhiteSpace hc, Bool.false_or])
      · exact settingOf_congr (Unicode.parts_concat hc)
          (by simp [hintsAtOperator_of_isWhiteSpace hc])

/-- The settings of an entry that is not global are those of its pieces. -/
theorem settingsWithout_eq (skips : List Char → Bool) (h : ¬ e.IsGlobal) :
    e.settingsWithout skips attributes =
      e.pieces.flatMap fun piece => (Selector.settingWithout? skips attributes piece).toList := by
  rw [settingsWithout, if_neg h, List.filterMap_eq_flatMap_toList]

/-- Passing over all operators gives some of the settings. -/
theorem settingsWithout_sublist (e : SelectorEntry) (attributes : List ThemeAttribute) :
    (e.settingsWithout Selector.hasOperator attributes).Sublist
      (e.settingsWithout Selector.isSkipped attributes) := by
  by_cases h : e.IsGlobal
  · rw [settingsWithout, settingsWithout, if_pos h, if_pos h]
  · rw [settingsWithout_eq _ h, settingsWithout_eq _ h]
    exact flatMap_sublist fun piece _ => Selector.settingWithout?_sublist attributes piece

/-- An entry is read as it is meant if none of its selectors is misread. -/
theorem settingsWithout_eq_iff :
    e.settingsWithout Selector.isSkipped attributes =
      e.settingsWithout Selector.hasOperator attributes ↔
      (¬ e.IsGlobal → ∀ piece ∈ e.pieces, ¬ Selector.IsMisread piece) := by
  by_cases h : e.IsGlobal
  · simp [settingsWithout, h]
  · have hoption : ∀ a b : Option ThemeSetting, a.toList = b.toList ↔ a = b := fun a b => by
      cases a <;> cases b <;> simp
    rw [settingsWithout_eq _ h, settingsWithout_eq _ h, flatMap_eq_iff_of_sublist
      fun piece _ => Selector.settingWithout?_sublist attributes piece]
    simp only [hoption, Selector.settingWithout?_eq_iff, h, not_false_eq_true, forall_const]

/-- The settings for the root are among them. -/
theorem mem_settingsWithout_of_isRoot {s : ThemeSetting}
    (h : s ∈ e.settingsWithout Selector.isSkipped attributes) (hroot : s.isRoot = true) :
    s ∈ e.settingsWithout Selector.hasOperator attributes := by
  unfold settingsWithout at h ⊢
  by_cases hglobal : e.IsGlobal
  · rwa [if_pos hglobal] at h ⊢
  · rw [if_neg hglobal] at h ⊢
    obtain ⟨piece, hpiece, hs⟩ := List.mem_filterMap.1 h
    exact List.mem_filterMap.2 ⟨piece, hpiece, Selector.settingWithout?_of_isRoot hs hroot⟩

end SelectorEntry

/-! ## Themes -/

/-- A setting is for the root if it names the root scope and no parents. -/
theorem ThemeSetting.isRoot_iff {s : ThemeSetting} :
    s.isRoot = true ↔ s.scope.text = rootScope ∧ s.parents = [] := by
  rw [isRoot, Bool.and_eq_true_iff, List.isEmpty_iff, beq_iff_eq, and_comm]

/-- Settings make a theme if one of them is for the root scope. -/
theorem Theme.exists_ofSettings_iff {name : String} {settings : List ThemeSetting} :
    (∃ t, ofSettings name settings = .ok t) ↔
      ∃ s ∈ settings, s.scope.text = rootScope ∧ s.parents = [] := by
  simp only [← ThemeSetting.isRoot_iff]
  rw [← List.any_eq_true, ofSettings]
  split <;> rename_i h <;> simp [h]

/-- A theme of some settings has its name and them. -/
theorem Theme.ofSettings_eq_ok_iff {name : String} {settings : List ThemeSetting} {t : Theme} :
    ofSettings name settings = .ok t ↔ t.name = name ∧ t.settings = settings := by
  constructor
  · intro h
    unfold ofSettings at h
    split at h
    · obtain rfl := Except.ok.inj h
      exact ⟨rfl, rfl⟩
    · exact absurd h (by simp)
  · rintro ⟨rfl, rfl⟩
    exact dif_pos t.hasRoot

namespace SelectorStyle

/-- The text of some color is that of no color. -/
def HasBadColor (s : SelectorStyle) : Prop :=
  ∃ text cause, (s.foreground = some text ∨ s.background = some text) ∧
    Color.ofText text = .error cause

/-- An attribute cannot be made of a color that cannot be read. -/
theorem colorAttribute_eq_error_iff {make : Color → ThemeAttribute} {text? : Option String}
    {cause : InvalidColor} : colorAttribute make text? = .error cause ↔
      ∃ text, text? = some text ∧ Color.ofText text = .error cause := by
  cases text? with
  | none => simp [colorAttribute]
  | some text => cases h : Color.ofText text <;> simp [colorAttribute, h, Except.map]

/-- There are no attributes where a color is none. -/
theorem attributes_error_iff {s : SelectorStyle} :
    (∃ cause, s.attributes = .error cause) ↔ s.HasBadColor := by
  constructor
  · rintro ⟨cause, h⟩
    unfold attributes at h
    rcases bind_eq_error_iff.1 h with hforeground | ⟨foreground, -, h⟩
    · obtain ⟨text, htext, hbad⟩ := colorAttribute_eq_error_iff.1 hforeground
      exact ⟨text, cause, Or.inl htext, hbad⟩
    · rcases bind_eq_error_iff.1 h with hbackground | ⟨background, -, h⟩
      · obtain ⟨text, htext, hbad⟩ := colorAttribute_eq_error_iff.1 hbackground
        exact ⟨text, cause, Or.inr htext, hbad⟩
      · exact absurd h (by simp [pure, Except.pure])
  · rintro ⟨text, cause, htext, hbad⟩
    cases h : s.attributes with
    | error e => exact ⟨e, rfl⟩
    | ok all =>
      unfold attributes at h
      obtain ⟨foreground, hforeground, h⟩ := bind_eq_ok_iff.1 h
      obtain ⟨background, hbackground, -⟩ := bind_eq_ok_iff.1 h
      rcases htext with htext | htext
      · rw [colorAttribute_eq_error_iff.2 ⟨text, htext, hbad⟩] at hforeground
        exact absurd hforeground (by simp)
      · rw [colorAttribute_eq_error_iff.2 ⟨text, htext, hbad⟩] at hbackground
        exact absurd hbackground (by simp)

end SelectorStyle

namespace SelectorTheme

variable {entries : List SelectorEntry}

/-- There is an error if a color of an entry cannot be read. -/
theorem settings_error_iff :
    (∃ cause, settings entries = .error cause) ↔ ∃ e ∈ entries, e.style.HasBadColor := by
  induction entries with
  | nil => simp [settings]
  | cons e rest ih =>
    constructor
    · rintro ⟨cause, h⟩
      unfold settings at h
      rcases bind_eq_error_iff.1 h with hfirst | ⟨attributes, -, h⟩
      · exact ⟨e, List.mem_cons_self, SelectorStyle.attributes_error_iff.1 ⟨cause, hfirst⟩⟩
      · rcases bind_eq_error_iff.1 h with hrest | ⟨others, -, h⟩
        · obtain ⟨e', he', hbad⟩ := ih.1 ⟨cause, hrest⟩
          exact ⟨e', List.mem_cons_of_mem e he', hbad⟩
        · exact absurd h (by simp [pure, Except.pure])
    · rintro ⟨e', he', hbad⟩
      cases h : settings (e :: rest) with
      | error cause => exact ⟨cause, rfl⟩
      | ok all =>
        unfold settings at h
        obtain ⟨attributes, hfirst, h⟩ := bind_eq_ok_iff.1 h
        obtain ⟨others, hrest, -⟩ := bind_eq_ok_iff.1 h
        rcases List.mem_cons.1 he' with rfl | he'
        · obtain ⟨cause, hcause⟩ := SelectorStyle.attributes_error_iff.2 hbad
          exact absurd (hfirst.symm.trans hcause) (by simp)
        · obtain ⟨cause, hcause⟩ := ih.2 ⟨e', he', hbad⟩
          exact absurd (hrest.symm.trans hcause) (by simp)

/-- **The settings of entries**, one entry after the other. -/
theorem settings_eq_ok {attributes : SelectorEntry → List ThemeAttribute}
    (h : ∀ e ∈ entries, e.style.attributes = .ok (attributes e)) :
    settings entries =
      .ok (entries.flatMap fun e => e.settingsWithout Selector.isSkipped (attributes e)) := by
  induction entries with
  | nil => rfl
  | cons e rest ih =>
    rw [settings, h e List.mem_cons_self, ih fun e' he => h e' (List.mem_cons_of_mem e he)]
    show Except.ok (e.settings (attributes e) ++ _) = _
    rw [e.settings_eq, List.flatMap_cons]

/-- **Themes of selectors.** A theme is refused for a color exactly if some color of an entry is
none. Otherwise the settings are those that are meant, in the order of the entries, if and only if
no selector is misread; and it is accepted if and only if one of those that are meant is for the
root scope alone. -/
theorem toTheme_as_meant (t : SelectorTheme) (fallback : String) :
    ((∃ cause, t.toTheme fallback = .error (.invalidColor (t.name.getD fallback) cause)) ↔
      ∃ e ∈ t.entries, e.style.HasBadColor) ∧
    ((∀ e ∈ t.entries, ¬ e.style.HasBadColor) →
      ∃ attributes : SelectorEntry → List ThemeAttribute,
        (∀ e ∈ t.entries, e.style.attributes = .ok (attributes e)) ∧
        let read := t.entries.flatMap fun e => e.settingsWithout Selector.isSkipped (attributes e)
        let meant := t.entries.flatMap fun e =>
          e.settingsWithout Selector.hasOperator (attributes e)
        (∀ theme, t.toTheme fallback = .ok theme ↔
          theme.name = t.name.getD fallback ∧ theme.settings = read) ∧
        (read = meant ↔
          ∀ e ∈ t.entries, ¬ e.IsGlobal → ∀ piece ∈ e.pieces, ¬ Selector.IsMisread piece) ∧
        ((∃ theme, t.toTheme fallback = .ok theme) ↔
          ∃ s ∈ meant, s.scope.text = rootScope ∧ s.parents = [])) := by
  constructor
  · rw [← settings_error_iff]
    unfold toTheme
    cases settings t.entries with
    | error cause => simp
    | ok all =>
      have hnot : ∀ cause, Theme.ofSettings (t.name.getD fallback) all ≠
          .error (.invalidColor (t.name.getD fallback) cause) := by
        intro cause h
        unfold Theme.ofSettings at h
        split at h <;> exact absurd h (by simp)
      simpa using hnot
  · intro hcolors
    have hattributes : ∀ e ∈ t.entries,
        e.style.attributes = .ok (e.style.attributes.toOption.getD []) := by
      intro e he
      cases h : e.style.attributes with
      | ok attributes => rfl
      | error cause => exact absurd (SelectorStyle.attributes_error_iff.1 ⟨cause, h⟩) (hcolors e he)
    refine ⟨fun e => e.style.attributes.toOption.getD [], hattributes, ?_⟩
    intro read meant
    have htheme : t.toTheme fallback = Theme.ofSettings (t.name.getD fallback) read := by
      rw [toTheme, settings_eq_ok hattributes]
    have hless : meant.Sublist read := flatMap_sublist fun e _ => e.settingsWithout_sublist _
    have hroots : (∃ s ∈ read, s.scope.text = rootScope ∧ s.parents = []) ↔
        ∃ s ∈ meant, s.scope.text = rootScope ∧ s.parents = [] := by
      constructor
      · rintro ⟨s, hs, hroot⟩
        obtain ⟨e, he, hs⟩ := List.mem_flatMap.1 hs
        exact ⟨s, List.mem_flatMap.2 ⟨e, he, SelectorEntry.mem_settingsWithout_of_isRoot hs
          (ThemeSetting.isRoot_iff.2 hroot)⟩, hroot⟩
      · rintro ⟨s, hs, hroot⟩
        exact ⟨s, hless.subset hs, hroot⟩
    refine ⟨fun theme => ?_, ?_, ?_⟩
    · rw [htheme, Theme.ofSettings_eq_ok_iff]
    · exact (flatMap_eq_iff_of_sublist fun e _ => e.settingsWithout_sublist _).trans
        (forall₂_congr fun e _ => SelectorEntry.settingsWithout_eq_iff)
    · rw [htheme, Theme.exists_ofSettings_iff, hroots]

/-! ## Two themes -/

/-- A theme with gray for all text and red for some selectors. -/
def redTheme (selectors : String) : SelectorTheme :=
  ⟨some "red", [⟨none, ⟨some "#808080", none, none⟩⟩,
    ⟨some selectors, ⟨some "#FF0000", none, none⟩⟩]⟩

/-- The attributes of its entries. -/
def redAttributes (e : SelectorEntry) : List ThemeAttribute :=
  if e.selectors = none then [.color ⟨128, 128, 128, 255⟩] else [.color ⟨255, 0, 0, 255⟩]

/-- The attributes of the red theme are red. -/
theorem attributes_redTheme (selectors : String) :
    ∀ e ∈ (redTheme selectors).entries, e.style.attributes = .ok (redAttributes e) := by
  have hgray : Color.ofText "#808080" = .ok ⟨128, 128, 128, 255⟩ :=
    Color.ofText_text ⟨128, 128, 128, 255⟩
  have hred : Color.ofText "#FF0000" = .ok ⟨255, 0, 0, 255⟩ := Color.ofText_text ⟨255, 0, 0, 255⟩
  intro e he
  simp only [redTheme, List.mem_cons, List.not_mem_nil, or_false] at he
  rcases he with rfl | rfl <;>
    dsimp only [SelectorStyle.attributes, SelectorStyle.colorAttribute]
  · rw [hgray]
    rfl
  · rw [hred]
    rfl

/-- These words are without white space. -/
theorem words_redTheme : ∀ word ∈ ["meta.tag", "string", "comment", "-", "source", "(", ")"].map
    String.toList, word ≠ [] ∧ ∀ c ∈ word, Unicode.isWhiteSpace c = false := by
  have hall : ((["meta.tag", "string", "comment", "-", "source", "(", ")"].map String.toList).all
      fun word => !word.isEmpty && word.all fun c => !Unicode.isWhiteSpace c) = true := by
    unfold Unicode.isWhiteSpace
    rw [Unicode.whiteSpaceRanges_items]
    decide +kernel
  intro word hword
  simpa using List.all_eq_true.1 hall word hword

/-- A letter is no white space. -/
theorem isWhiteSpace_s : Unicode.isWhiteSpace 's' = false :=
  (words_redTheme "string".toList (by decide +kernel)).2 's' (by decide +kernel)

/-- The parts of a text of words with blanks between them are the words. -/
theorem parts_of_words {text : List Char} {words : List (List Char)} (front : List Char)
    (hwords : words ⊆ ["meta.tag", "string", "comment", "-", "source", "(", ")"].map String.toList)
    (hfront : ∀ c ∈ front, c = ' ')
    (htext : text ++ [' '] = front ++ words.flatMap fun word => word ++ [' ']) :
    Unicode.parts text = words := by
  have hwhite : ∀ c ∈ front, Unicode.isWhiteSpace c = true := by
    intro c hc
    rw [hfront c hc]
    exact Unicode.isWhiteSpace_blank
  rw [← Unicode.parts_concat Unicode.isWhiteSpace_blank, htext, Unicode.parts_append hwhite]
  exact Unicode.parts_flatMap_blank fun word hword => words_redTheme word (hwords hword)

/-- Gray for all text, before other settings. -/
def grayBefore (rest : List ThemeSetting) : List ThemeSetting :=
  { scope := ⟨rootScope⟩, attributes := [.color ⟨128, 128, 128, 255⟩] } ::
    { scope := ⟨"text"⟩, attributes := [.color ⟨128, 128, 128, 255⟩] } :: rest

/-- The settings of such a theme, if its selectors are not blank. -/
theorem settingsWithout_redTheme {selectors : String} {c : Char} (hc : c ∈ selectors.toList)
    (hspace : Unicode.isWhiteSpace c = false) (skips : List Char → Bool) :
    (redTheme selectors).entries.flatMap (fun e => e.settingsWithout skips (redAttributes e)) =
      grayBefore ((Text.splitAt ',' selectors.toList).filterMap
        (Selector.settingWithout? skips [.color ⟨255, 0, 0, 255⟩])) := by
  have hglobal : ¬ SelectorEntry.IsGlobal ⟨some selectors, ⟨some "#FF0000", none, none⟩⟩ :=
    fun h => absurd (h selectors rfl c hc) (by simp [hspace])
  rw [redTheme, List.flatMap_cons, List.flatMap_cons, SelectorEntry.settingsWithout,
    SelectorEntry.settingsWithout, if_neg hglobal, List.flatMap_nil, List.append_nil]
  rfl

/-- What is read from the selectors as they are meant: the second one has an operator. -/
theorem toTheme_as_meant_exclusion :
    ∃ theme, (redTheme "meta.tag string, comment - source").toTheme "untitled" = .ok theme ∧
      theme.settings = grayBefore [{ scope := ⟨"string"⟩, parents := [⟨"meta.tag"⟩],
                                     attributes := [.color ⟨255, 0, 0, 255⟩] }] := by
  let t := redTheme "meta.tag string, comment - source"
  have hcolors : ∀ e ∈ t.entries, ¬ e.style.HasBadColor := by
    intro e he hbad
    obtain ⟨cause, hcause⟩ := SelectorStyle.attributes_error_iff.2 hbad
    exact absurd (hcause.symm.trans (attributes_redTheme _ e he)) (by simp)
  have hpieces : Text.splitAt ',' "meta.tag string, comment - source".toList =
      ["meta.tag string".toList, " comment - source".toList] := by decide +kernel
  have hfirst : Unicode.parts "meta.tag string".toList = ["meta.tag".toList, "string".toList] :=
    parts_of_words [] (by decide +kernel) (by simp) (by decide +kernel)
  have hsecond : Unicode.parts " comment - source".toList =
      ["comment".toList, "-".toList, "source".toList] :=
    parts_of_words [' '] (by decide +kernel) (by simp) (by decide +kernel)
  have hmeant :
      t.entries.flatMap (fun e => e.settingsWithout Selector.hasOperator (redAttributes e)) =
        grayBefore [{ scope := ⟨"string"⟩, parents := [⟨"meta.tag"⟩],
                      attributes := [.color ⟨255, 0, 0, 255⟩] }] := by
    rw [settingsWithout_redTheme (c := 's') (by decide +kernel) isWhiteSpace_s, hpieces,
      List.filterMap_cons, List.filterMap_cons,
      Selector.settingWithout?_of_parts (by rw [hfirst]; rfl),
      Selector.settingWithout?_of_parts (by rw [hsecond]; rfl), Selector.hasOperator,
      Selector.hasOperator, hfirst, hsecond]
    decide +kernel
  obtain ⟨attributes, hattributes, htheme, hsame, haccepted⟩ :=
    (toTheme_as_meant t "untitled").2 hcolors
  have hred : ∀ e ∈ t.entries, attributes e = redAttributes e := fun e he =>
    Except.ok.inj ((hattributes e he).symm.trans (attributes_redTheme _ e he))
  have hlist : t.entries.flatMap (fun e => e.settingsWithout Selector.hasOperator (attributes e)) =
      _ := (List.flatMap_congr fun e he => by rw [hred e he]).trans hmeant
  rw [hlist] at hsame haccepted
  have hright : ∀ e ∈ t.entries, ¬ e.IsGlobal → ∀ piece ∈ e.pieces, ¬ Selector.IsMisread piece := by
    intro e he hglobal piece hpiece hmisread
    simp only [t, redTheme, List.mem_cons, List.not_mem_nil, or_false] at he
    rcases he with rfl | rfl
    · exact hglobal fun s hs => absurd hs (by simp)
    · have hmem : piece ∈ ["meta.tag string".toList, " comment - source".toList] := hpieces ▸ hpiece
      simp only [List.mem_cons, List.not_mem_nil, or_false] at hmem
      rcases hmem with rfl | rfl
      · exact absurd (hfirst ▸ hmisread.1) (by decide +kernel)
      · exact absurd (hsecond ▸ hmisread.1) (by decide +kernel)
  obtain ⟨theme, hok⟩ := haccepted.2 ⟨_, List.mem_cons_self, rfl, rfl⟩
  exact ⟨theme, hok, ((htheme theme).1 hok).2.trans (hsame.2 hright)⟩

/-- **What becomes of a group**: cut at the comma, its second half is read as a closing parenthesis
inside of a string. -/
theorem group_not_read_as_meant :
    ((redTheme "( comment, string )").toTheme "untitled").toOption.map (·.settings) =
      some (grayBefore [{ scope := ⟨")"⟩, parents := [⟨"string"⟩],
                          attributes := [.color ⟨255, 0, 0, 255⟩] }]) ∧
    (redTheme "( comment, string )").entries.flatMap
      (fun e => e.settingsWithout Selector.hasOperator (redAttributes e)) = grayBefore [] := by
  have hpieces : Text.splitAt ',' "( comment, string )".toList =
      ["( comment".toList, " string )".toList] := by decide +kernel
  have hfirst : Unicode.parts "( comment".toList = ["(".toList, "comment".toList] :=
    parts_of_words [] (by decide +kernel) (by simp) (by decide +kernel)
  have hsecond : Unicode.parts " string )".toList = ["string".toList, ")".toList] :=
    parts_of_words [' '] (by decide +kernel) (by simp) (by decide +kernel)
  have hread : ∀ skips, (redTheme "( comment, string )").entries.flatMap
      (fun e => e.settingsWithout skips (redAttributes e)) = _ := fun skips =>
    settingsWithout_redTheme (c := 's') (by decide +kernel) isWhiteSpace_s skips
  constructor
  · have hsettings : SelectorTheme.settings (redTheme "( comment, string )").entries =
        .ok (grayBefore [{ scope := ⟨")"⟩, parents := [⟨"string"⟩],
                           attributes := [.color ⟨255, 0, 0, 255⟩] }]) := by
      rw [settings_eq_ok (attributes_redTheme _), hread, hpieces, List.filterMap_cons,
        List.filterMap_cons, Selector.settingWithout?_of_parts (by rw [hfirst]; rfl),
        Selector.settingWithout?_of_parts (by rw [hsecond]; rfl), Selector.isSkipped,
        Selector.isSkipped, Selector.hasOperator, Selector.hasOperator, hfirst, hsecond]
      decide +kernel
    unfold toTheme
    rw [hsettings]
    decide +kernel
  · rw [hread, hpieces, List.filterMap_cons, List.filterMap_cons,
      Selector.settingWithout?_of_parts (by rw [hfirst]; rfl),
      Selector.settingWithout?_of_parts (by rw [hsecond]; rfl), Selector.hasOperator,
      Selector.hasOperator, hfirst, hsecond]
    decide +kernel

end SelectorTheme

end ScopePaint
