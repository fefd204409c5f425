import ScopePaint.Proofs.Document.Coherence

/-!
# Changing documents and new ones

However a document came about (`History`), its texts are those that splicing lists gives, and its
tokens look like those of a new document with the same lines in the same theme, or cannot be had for
the same reason. What can be seen of tokens are their ranges and the names and styles of their
scopes (`TokenLine.visible`).

Both documents are compared with tokenizing one line after another without keeping anything
(`Library.tokensFromScratch`): bringing the lines of a coherent document up to date comes to the
same (`Refreshed.ofLines_fromScratch`). The library may be asked for other rules in between, as if
others used it as well.
-/

set_option autoImplicit false

namespace ScopePaint

/-! ## Tokens from scratch -/

/-- What can be seen of the tokens of a line: where they are, and the names and styles of the scopes
around them. -/
def TokenLine.visible (l : TokenLine) :
    List (Text.Span × List (Option ScopeName) × List ResolvedStyle) :=
  l.tokens.map fun t => (t.range, t.scopes.map (·.name), t.scopes.map (·.style))

/-- Tokens with the same ranges, names and styles look the same. -/
theorem Library.SameTokens.visible {theme : Theme} {x y : TokenLine × LineState}
    (h : SameTokens theme theme x y) : x.1.visible = y.1.visible := by
  have hzip : ∀ l : TokenLine, l.visible = (l.tokens.map (·.range)).zip
      ((l.tokens.map fun t => t.scopes.map (·.name)).zip
        (l.tokens.map fun t => t.scopes.map (·.style))) := by
    intro l
    rw [List.zip_map', List.zip_map']
    rfl
  rw [hzip, hzip, h.ranges, h.names, h.styles rfl]

/-- The tokens of one of some lines, if there is such a line, after tokenizing all lines before it
from a state. -/
def Library.tokensFromScratch (lib : Library) (id : Nat) (theme : Theme) :
    Option LineState → List String → Nat → Except Failure (Option TokenLine)
  | _, [], _ => .ok none
  | start, text :: rest, index => do
    let (tokens, next) ← lib.tokenizeFrom id theme start text
    match index with
    | 0 => .ok (some tokens)
    | index + 1 => lib.tokensFromScratch id theme (some next) rest index

section FirstText

variable {base : Library} {id : Nat} {theme : Theme} {start : Option LineState} {text : String}
  {rest : List String} {result : TokenLine × LineState}

/-- If the first line cannot be tokenized, no line has tokens. -/
theorem tokensFromScratch_of_error {e : Failure}
    (h : base.tokenizeFrom id theme start text = .error e) (index : Nat) :
    base.tokensFromScratch id theme start (text :: rest) index = .error e := by
  rw [Library.tokensFromScratch, h]
  rfl

/-- The tokens of the first line are what tokenizing it gives. -/
theorem tokensFromScratch_zero (h : base.tokenizeFrom id theme start text = .ok result) :
    base.tokensFromScratch id theme start (text :: rest) 0 = .ok (some result.1) := by
  rw [Library.tokensFromScratch, h]
  rfl

/-- Those of the other lines are found behind the state at its end. -/
theorem tokensFromScratch_succ (h : base.tokenizeFrom id theme start text = .ok result)
    (index : Nat) : base.tokensFromScratch id theme start (text :: rest) (index + 1) =
      base.tokensFromScratch id theme (some result.2) rest index := by
  rw [Library.tokensFromScratch, h]
  rfl

end FirstText

/-- The tokens of one of the lines that were brought up to date. -/
def Refreshed.tokensAt (r : Refreshed) (index : Nat) : Except Failure (Option TokenLine) := do
  r.outcome
  return (r.lines[index]?).bind (·.tokens)

/-- The first tokens are those of a line that is put in front. -/
theorem Refreshed.tokensAt_cons_zero (line : DocumentLine) (id : Nat) (theme : Theme) (count : Nat)
    (start : Option LineState) (lib : Library) (lines : List DocumentLine) :
    ((ofLines id theme 0 start lib lines).cons line count).tokensAt 0 = .ok line.tokens := by
  rw [ofLines]
  rfl

/-- The others are those from before. -/
theorem Refreshed.tokensAt_cons_succ (line : DocumentLine) (count : Nat) (r : Refreshed)
    (index : Nat) : (r.cons line count).tokensAt (index + 1) = r.tokensAt index := rfl

section Scratch

variable {base lib : Library} {id : Nat} {theme : Theme} {start start' : Option LineState}
  {text : String} {result : TokenLine × LineState} {lines : List DocumentLine}

/-- Tokenizing a text is tokenizing a line from a state that tokenizing leads to. -/
theorem tokenizeFrom_eq_ok (hknown : Known base id theme start)
    (h : base.tokenizeFrom id theme start text = .ok result) :
    ∃ state, base.Reaches id (fun x => x = theme) state ∧
      (base.tokenizeLine id theme text.toList state).1 = .ok result := by
  obtain ⟨state, hstate, hline⟩ := bind_eq_ok_iff.1 h
  refine ⟨state, ?_, hline⟩
  cases start with
  | none => exact .first (.refl _) rfl hstate
  | some s =>
    obtain rfl := Except.ok.inj hstate
    exact hknown _ rfl

/-- The state behind a line is known if the one in front of it is. -/
theorem known_of_tokenizeFrom (hknown : Known base id theme start)
    (h : base.tokenizeFrom id theme start text = .ok result) :
    Known base id theme (some result.2) := by
  obtain ⟨state, hr, hline⟩ := tokenizeFrom_eq_ok hknown h
  intro next hnext
  obtain rfl := Option.some.inj hnext
  exact .next hr (.refl _) rfl hline

/-- **In coherent lines the tokens of a line look as if all lines before it were tokenized anew.** -/
theorem Refreshed.ofLines_fromScratch (hs : base.Sound) (hq : base.Queried lib)
    (hknown : Known base id theme start) (hknown' : Known base id theme start')
    (hstart : SameStart start start') (h : Coherent base id theme start lines) (index : Nat) :
    ((ofLines id theme (index + 1) start lib lines).tokensAt index).map
        (Option.map TokenLine.visible) =
      (base.tokensFromScratch id theme start' (lines.map (·.text)) index).map
        (Option.map TokenLine.visible) := by
  induction index generalizing start start' lib lines with
  | zero =>
    cases lines with
    | nil => rfl
    | cons line rest =>
      have hfirst := (ofLines_first hs hq hknown h 0).change hs hknown hknown' hstart
      generalize ofLines id theme (0 + 1) start lib (line :: rest) = r at hfirst
      cases hfirst with
      | failed _ hresult =>
        rw [List.map_cons, tokensFromScratch_of_error hresult]
        rfl
      | done _ hresult hfresh _ _ _ =>
        obtain ⟨tokens, state, htokens, -, hsame⟩ := hfresh.keeps
        rw [List.map_cons, tokensFromScratch_zero hresult, tokensAt_cons_zero, htokens]
        simp only [Except.map, Option.map_some, hsame.visible]
  | succ index ih =>
    cases lines with
    | nil => rfl
    | cons line rest =>
      have hfirst := (ofLines_first hs hq hknown h (index + 1)).change hs hknown hknown' hstart
      generalize ofLines id theme (index + 1 + 1) start lib (line :: rest) = r at hfirst
      cases hfirst with
      | failed _ hresult =>
        rw [List.map_cons, tokensFromScratch_of_error hresult]
        rfl
      | @done _ fresh _ _ result hq' hresult hfresh hbehind htexts _ =>
        obtain ⟨tokens, state, -, hstate, hsame⟩ := hfresh.keeps
        have hstart' : SameStart fresh.endState (some result.2) := by
          rw [hstate]
          exact .some hsame.next
        rw [List.map_cons, tokensFromScratch_succ hresult, tokensAt_cons_succ, ← htexts]
        exact ih hq' hfresh.known (known_of_tokenizeFrom hknown' hresult) hstart' hbehind

end Scratch

/-! ## Documents -/

namespace Document

variable {base lib : Library} {id : Nat} {d : Document}

/-- A new document with some lines. -/
def ofTexts (id : Nat) (theme : Theme) (texts : List String) : Document :=
  { grammar := id, theme, lines := texts.map .ofText }

/-- The tokens of a line are those that bringing all lines up to it up to date gives. -/
theorem tokens_fst (h : Settled d.valid d.lines) (lib : Library) (index : Nat) :
    (d.tokens lib index).1 =
      (Refreshed.ofLines d.grammar d.theme (index + 1) none lib d.lines).tokensAt index := by
  unfold tokens
  rw [refresh_eq h]
  dsimp only
  unfold Refreshed.tokensAt
  cases (Refreshed.ofLines d.grammar d.theme (index + 1) none lib d.lines).outcome <;> rfl

/-- **The tokens of a sound document look like those from scratch.** -/
theorem Sound.tokens_fromScratch (h : d.Sound base) (hs : base.Sound) (hq : base.Queried lib)
    (index : Nat) :
    (d.tokens lib index).1.map (Option.map TokenLine.visible) =
      (base.tokensFromScratch d.grammar d.theme none (d.lines.map (·.text)) index).map
        (Option.map TokenLine.visible) := by
  have hnone := known_none base d.grammar d.theme
  rw [tokens_fst h.settled]
  exact Refreshed.ofLines_fromScratch hs hq hnone hnone (sameStart_self none) h.coherent index

/-! ## Calls -/

/-- What can be done to a document. -/
inductive Call where
  | replace (range : Text.Span) (texts : List String)
  | setTheme (theme : Theme)
  | tokens (index : Nat)
  | styleLine (index : Nat) (selected : Bool)
  | styled (selection : Option Text.Span)

/-- A list with elements in the place of others. The range may be reversed or reach behind the last
element. -/
def spliced {α : Type} (xs : List α) (range : Text.Span) (ys : List α) : List α :=
  let stop := min range.stop xs.length
  xs.take (min range.start stop) ++ ys ++ xs.drop stop

namespace Call

/-- What a call leaves of the library and of the document, also where it fails. -/
def run (lib : Library) (d : Document) : Call → Library × Document
  | replace range texts => (lib, d.replace range texts)
  | setTheme theme => (lib, d.setTheme theme)
  | tokens index => (d.tokens lib index).2
  | styleLine index selected => (d.styleLine lib index selected).2
  | styled selection => (d.styled lib selection).2

/-- The theme after a call. -/
def theme (current : Theme) : Call → Theme
  | setTheme theme => theme
  | _ => current

/-- The texts of the lines after a call. -/
def texts (current : List String) : Call → List String
  | replace range texts => spliced current range texts
  | _ => current

end Call

/-- The documents that come of any calls in any order, with the theme and the texts that are in them
by then. The library may be asked for rules in between. -/
inductive History (base : Library) (id : Nat) :
    Theme → List String → Library → Document → Prop
  | start (theme : Theme) (text : String) :
      History base id theme (splitLines text) base (.ofText id theme text)
  | asked {theme : Theme} {texts : List String} {lib lib' : Library} {d : Document}
      (h : History base id theme texts lib d) (hq : lib.Queried lib') :
      History base id theme texts lib' d
  | call {theme : Theme} {texts : List String} {lib : Library} {d : Document}
      (h : History base id theme texts lib d) (c : Call) :
      History base id (c.theme theme) (c.texts texts) (c.run lib d).1 (c.run lib d).2

/-! ## What calls keep -/

/-- Without warnings nothing is noted. -/
theorem warn_nil (lib : Library) : lib.warn [] = lib := by simp [Library.warn]

/-- Asking for tokens or styled text brings lines up to date, and at most writes warnings down. -/
theorem tokens_snd (d : Document) (lib : Library) (index : Nat) :
    (d.tokens lib index).2 = (d.refresh lib index).2 := by
  unfold tokens
  split <;> rename_i h <;> rw [h]

/-- Styling a line brings it up to date and notes some warnings. -/
theorem styleLine_snd (d : Document) (lib : Library) (index : Nat) (selected : Bool) :
    ∃ warnings, (d.styleLine lib index selected).2 =
      ((d.refresh lib index).2.1.warn warnings, (d.refresh lib index).2.2) := by
  unfold styleLine
  split <;> rename_i h <;> rw [h]
  · exact ⟨[], by rw [warn_nil]⟩
  · split
    · exact ⟨[], by rw [warn_nil]⟩
    · exact ⟨_, rfl⟩

/-- Styling a document brings all its lines up to date and notes some warnings. -/
theorem styled_snd (d : Document) (lib : Library) (selection : Option Text.Span) :
    ∃ warnings, (d.styled lib selection).2 =
      ((d.refresh lib (d.lines.length - 1)).2.1.warn warnings,
        (d.refresh lib (d.lines.length - 1)).2.2) := by
  unfold styled
  split <;> rename_i h <;> rw [h]
  · exact ⟨[], by rw [warn_nil]⟩
  · exact ⟨_, rfl⟩

/-- **Replacing lines splices their texts.** -/
theorem map_text_replace (d : Document) (range : Text.Span) (texts : List String) :
    (d.replace range texts).lines.map (·.text) = spliced (d.lines.map (·.text)) range texts := by
  have hbehind : ∀ lines : List DocumentLine,
      (if texts.isEmpty then Refreshed.markFirst lines else lines).map (·.text) =
        lines.map (·.text) := by
    intro lines
    split
    · exact Refreshed.map_text_markFirst lines
    · rfl
  simp only [replace, spliced, List.map_append, List.map_take, List.map_drop, hbehind,
    map_carry (·.text) fun _ _ => rfl, List.map_map, List.length_map]
  congr 2
  exact List.map_id texts

variable {current : Theme} {texts : List String}

/-- A document with a theme and texts, and a library that was not asked for anything but rules. -/
structure Stands (base : Library) (id : Nat) (current : Theme) (texts : List String)
    (lib : Library) (d : Document) : Prop where
  queried : base.Queried lib
  grammar : d.grammar = id
  theme : d.theme = current
  texts : d.lines.map (·.text) = texts
  sound : d.Sound base

namespace Stands

/-- A new document stands for its texts. -/
theorem ofTexts (base : Library) (id : Nat) (current : Theme) (texts : List String) :
    Stands base id current texts base (ofTexts id current texts) where
  queried := .refl base
  grammar := rfl
  theme := rfl
  texts := by rw [Document.ofTexts, List.map_map]; exact List.map_id texts
  sound := .ofText base id current texts

/-- Bringing lines up to date changes neither theme nor texts. -/
theorem refresh (h : Stands base id current texts lib d) (hs : base.Sound) (index : Nat)
    (warnings : List Warning) : Stands base id current texts
      ((d.refresh lib index).2.1.warn warnings) (d.refresh lib index).2.2 := by
  have hkept := Refreshed.ofLines_kept hs h.queried (known_none _ _ _) h.sound.coherent
    h.sound.settled (index + 1)
  have hsound := h.sound.refresh hs h.queried index
  rw [refresh_eq h.sound.settled] at hsound ⊢
  exact ⟨.warn warnings hkept.queried, h.grammar, h.theme, hkept.texts.trans h.texts, hsound⟩

/-- **Every call keeps a document sound**, with the theme and the texts that the call says. -/
theorem call (h : Stands base id current texts lib d) (hs : base.Sound) (c : Call) :
    Stands base id (c.theme current) (c.texts texts) (c.run lib d).1 (c.run lib d).2 := by
  cases c with
  | replace range new =>
    refine ⟨h.queried, h.grammar, h.theme, ?_, h.sound.replace range new⟩
    rw [← h.texts]
    exact map_text_replace d range new
  | setTheme theme =>
    refine ⟨h.queried, h.grammar, rfl, ?_, .setTheme d theme⟩
    rw [← h.texts]
    exact List.map_map
  | tokens index =>
    have hrefreshed := h.refresh hs index []
    rw [warn_nil] at hrefreshed
    dsimp only [Call.run]
    rw [tokens_snd]
    exact hrefreshed
  | styleLine index selected =>
    obtain ⟨warnings, hrun⟩ := styleLine_snd d lib index selected
    dsimp only [Call.run]
    rw [hrun]
    exact h.refresh hs index warnings
  | styled selection =>
    obtain ⟨warnings, hrun⟩ := styled_snd d lib selection
    dsimp only [Call.run]
    rw [hrun]
    exact h.refresh hs _ warnings

end Stands

/-- **Any calls keep a document sound.** -/
theorem History.stands (h : History base id current texts lib d) (hs : base.Sound) :
    Stands base id current texts lib d := by
  induction h with
  | start theme text => exact .ofTexts base id theme (splitLines text)
  | asked _ hq ih => exact { ih with queried := ih.queried.trans hq }
  | call _ c ih => exact ih.call hs c

/-- **Changing documents look like new ones.** After any calls in any order the texts of a document
are those that splicing gives; and asking for the tokens of a line fails for the same reason as in a
new document with these lines in the current theme, or gives tokens with the same ranges, names and
styles. -/
theorem History.tokens_eq_new (hb : base.Built) (h : History base id current texts lib d) :
    d.theme = current ∧ d.lines.map (·.text) = texts ∧
      ∀ index lib', base.Queried lib' →
        (d.tokens lib index).1.map (Option.map TokenLine.visible) =
          ((ofTexts id current texts).tokens lib' index).1.map (Option.map TokenLine.visible) := by
  have hstands := h.stands hb.sound
  have hnew := Stands.ofTexts base id current texts
  refine ⟨hstands.theme, hstands.texts, fun index lib' hq => ?_⟩
  rw [hstands.sound.tokens_fromScratch hb.sound hstands.queried,
    hnew.sound.tokens_fromScratch hb.sound hq, hstands.grammar, hstands.theme, hstands.texts,
    hnew.grammar, hnew.theme, hnew.texts]

/-- A line of brackets that is put between two others, of which the first was tokenized before. -/
theorem History.tokens_eq_new_brackets :
    let first := (Document.ofText 0 Theme.builtin "[a\n]").tokens bracketLibrary 1
    let d := first.2.2.replace ⟨9, 1⟩ ["[b"]
    (d.tokens first.2.1 2).1.isOk = true ∧
      d.theme = Theme.builtin ∧ d.lines.map (·.text) = ["[a", "[b", "]"] ∧
      (d.tokens first.2.1 2).1.map (Option.map TokenLine.visible) =
        ((ofTexts 0 Theme.builtin ["[a", "[b", "]"]).tokens bracketLibrary 2).1.map
          (Option.map TokenLine.visible) := by
  intro first d
  have htexts : spliced (splitLines "[a\n]") ⟨9, 1⟩ ["[b"] = ["[a", "[b", "]"] := by decide +kernel
  have hhistory : History bracketLibrary 0 Theme.builtin ["[a", "[b", "]"] first.2.1 d := by
    rw [← htexts]
    exact ((History.start Theme.builtin "[a\n]").call (.tokens 1)).call (.replace ⟨9, 1⟩ ["[b"])
  obtain ⟨htheme, hlines, htokens⟩ := tokens_eq_new built_bracketLibrary hhistory
  exact ⟨by decide +kernel, htheme, hlines, htokens 2 bracketLibrary (.refl _)⟩

end Document

end ScopePaint
