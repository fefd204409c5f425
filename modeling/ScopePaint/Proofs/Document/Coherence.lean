import Mathlib.Data.Option.Basic
import ScopePaint.Document
import ScopePaint.Proofs.Tokens.Equivalence

/-!
# What a changing document keeps

A line that is not stale keeps what tokenizing it now would give, from the end that the line before
it keeps; the first line of a document starts where documents start (`Coherent`). Tokens may differ
in the numbers of their scopes, and ends are kept up to equivalence. Of stale lines nothing is asked
but that tokenizing can lead to the ends they keep: when such a line is tokenized its new end is
compared with the one it kept, and unless they are equivalent the line behind it is made stale.

A line that keeps no end counts as if documents started behind it. That is put to use only where
lines are put in front of the first one: the last of them keeps no end to compare with, and the line
that was the first one goes on being as up to date as it was.

Bringing lines up to date keeps lines coherent, also where it fails (`Refreshed.ofLines_kept`), and
the lines that a document counts as valid stay so. As these are not stale, the work may as well
begin with the first line and pass over them (`Document.refresh_eq`).
-/

set_option autoImplicit false

namespace ScopePaint

/-! ## The work on a line -/

/-- The tokens of a text and the state behind it, from the given state or, without one, from where
documents start. -/
def Library.tokenizeFrom (lib : Library) (id : Nat) (theme : Theme) (start : Option LineState)
    (text : String) : Except Failure (TokenLine × LineState) := do
  let state ← (DocumentLine.startState lib id theme start).1
  (lib.tokenizeLine id theme text.toList state).1

/-- If a state is known, it is one that tokenizing leads to under a theme. -/
def Known (base : Library) (id : Nat) (theme : Theme) (start : Option LineState) : Prop :=
  ∀ state, start = some state → base.Reaches id (fun x => x = theme) state

/-- The start of a document is known in every library. -/
theorem known_none (base : Library) (id : Nat) (theme : Theme) : Known base id theme none :=
  fun _ h => absurd h (by simp)

/-- Both states are known and equivalent, or none of them is known. -/
def SameStart (start start' : Option LineState) : Prop :=
  Option.Rel (fun s t => s.isEquivalent t = true) start start'

/-- A line starts where it starts. -/
theorem sameStart_self (start : Option LineState) : SameStart start start := by
  cases start with
  | none => exact .none
  | some state => exact .some (LineState.isEquivalent_iff.2 rfl)

/-- What a line keeps is like the result of work on its text. -/
def DocumentLine.Keeps (theme : Theme) (line : DocumentLine) (result : TokenLine × LineState) :
    Prop :=
  ∃ tokens state, line.tokens = some tokens ∧ line.endState = some state ∧
    Library.SameTokens theme theme (tokens, state) result

section Line

variable {base lib lib' : Library} {id : Nat} {theme : Theme} {start start' : Option LineState}
  {text : String} {line fresh : DocumentLine} {result result' : TokenLine × LineState}

/-- Lines start in equivalent states, whatever the library was asked before. -/
theorem startState_same (hs : base.Sound) (hq : base.Queried lib) (hq' : base.Queried lib')
    (hknown : Known base id theme start) (hknown' : Known base id theme start')
    (hstart : SameStart start start') :
    SameOutcome (fun s t => base.Reaches id (fun x => x = theme) s ∧
        base.Reaches id (fun x => x = theme) t ∧ s.isEquivalent t = true)
      (DocumentLine.startState lib id theme start).1
      (DocumentLine.startState lib' id theme start').1 := by
  cases hstart with
  | some h => exact .ok ⟨hknown _ rfl, hknown' _ rfl, h⟩
  | none =>
    unfold DocumentLine.startState
    have hsame : (lib.firstLineState id theme).1 = (lib'.firstLineState id theme).1 := by
      rw [← Library.firstLineState_agrees hs hq, ← Library.firstLineState_agrees hs hq']
    rw [← hsame]
    cases hfirst : (lib.firstLineState id theme).1 with
    | error e => exact .error e
    | ok state =>
      have hr : base.Reaches id (fun x => x = theme) state := .first hq rfl hfirst
      exact .ok ⟨hr, hr, LineState.isEquivalent_iff.2 rfl⟩

/-- Asking where a line starts asks the library at most for the rules of its grammar. -/
theorem queried_startState (hq : base.Queried lib) :
    base.Queried (DocumentLine.startState lib id theme start).2 := by
  cases start with
  | none => exact Library.queried_firstLineState hq
  | some state => exact hq

/-- **The result of work on a text depends on the state before it only up to equivalence.** -/
theorem tokenizeFrom_same (hs : base.Sound) (hknown : Known base id theme start)
    (hknown' : Known base id theme start') (hstart : SameStart start start') (text : String) :
    SameOutcome (Library.SameTokens theme theme) (base.tokenizeFrom id theme start text)
      (base.tokenizeFrom id theme start' text) := by
  refine (startState_same hs (.refl _) (.refl _) hknown hknown' hstart).bind ?_
  intro s t ⟨hr, hr', h⟩
  exact Library.tokenizeLine_equivalent hs (.refl _) (.refl _) hr hr' h text.toList

/-- What a line keeps may be compared with a result that is the same. -/
theorem DocumentLine.Keeps.trans (h : line.Keeps theme result)
    (hsame : Library.SameTokens theme theme result result') : line.Keeps theme result' := by
  obtain ⟨tokens, state, htokens, hstate, hline⟩ := h
  exact ⟨tokens, state, htokens, hstate, hline.trans hsame⟩

/-- Tokenizing a line asks the library only for what it knows. -/
theorem queried_tokenize (hs : base.Sound) (hq : base.Queried lib)
    (hknown : Known base id theme start) : base.Queried (line.tokenize lib id theme start).2 := by
  have hstate : base.Queried (DocumentLine.startState lib id theme start).2 :=
    queried_startState hq
  have hreached := startState_same hs hq hq hknown hknown (sameStart_self start)
  unfold DocumentLine.tokenize
  split
  · rename_i heq
    rwa [heq] at hstate
  · rename_i state lib' heq
    rw [heq] at hstate hreached
    cases hreached with
    | ok hr =>
      have hline : base.Queried (lib'.tokenizeLine id theme line.text.toList state).2 :=
        Library.queried_tokenizeLine hs hstate (hr.1.shaped hs) _
      split <;> rename_i hres <;> rwa [hres] at hline

/-- What is said of a line that was tokenized. -/
structure DocumentLine.FreshFor (base : Library) (id : Nat) (theme : Theme) (line : DocumentLine)
    (fresh : DocumentLine) (result : TokenLine × LineState) : Prop where
  text : fresh.text = line.text
  stale : fresh.stale = false
  known : Known base id theme fresh.endState
  keeps : fresh.Keeps theme result

/-- **A line that is tokenized keeps the result of the work on its text**, and it cannot be
tokenized where that work fails. -/
theorem tokenize_same (hs : base.Sound) (hq : base.Queried lib)
    (hknown : Known base id theme start) :
    SameOutcome (line.FreshFor base id theme) (line.tokenize lib id theme start).1
      (base.tokenizeFrom id theme start line.text) := by
  have hstate : base.Queried (DocumentLine.startState lib id theme start).2 :=
    queried_startState hq
  have hreached := startState_same hs hq (.refl base) hknown hknown (sameStart_self start)
  unfold DocumentLine.tokenize Library.tokenizeFrom
  generalize DocumentLine.startState lib id theme start = found at hstate hreached
  obtain ⟨outcome, lib'⟩ := found
  revert hreached
  generalize (DocumentLine.startState base id theme start).1 = outcome'
  intro hreached
  cases hreached with
  | error e => exact .error e
  | @ok s t h =>
    obtain ⟨hr, hr', hst⟩ := h
    have hline := Library.tokenizeLine_equivalent hs hstate (.refl base) hr hr' hst line.text.toList
    show SameOutcome _ _ (base.tokenizeLine id theme line.text.toList t).1
    revert hline
    generalize (base.tokenizeLine id theme line.text.toList t).1 = result'
    cases hres : lib'.tokenizeLine id theme line.text.toList s with
    | mk result lib'' =>
      intro hline
      dsimp only
      rw [hres]
      cases hline with
      | error e => exact .error e
      | @ok x _ hsame =>
        have hnext : base.Reaches id (fun x => x = theme) x.2 :=
          .next hr hstate rfl (by rw [hres])
        refine .ok ⟨rfl, rfl, ?_, x.1, x.2, rfl, rfl, hsame⟩
        intro state h
        obtain rfl := Option.some.inj h
        exact hnext

end Line

/-! ## Coherent lines -/

/-- What a line keeps is what tokenizing it would give. -/
def DocumentLine.UpToDate (base : Library) (id : Nat) (theme : Theme) (start : Option LineState)
    (line : DocumentLine) : Prop :=
  ∃ result, base.tokenizeFrom id theme start line.text = .ok result ∧ line.Keeps theme result

/-- Lines each of which is stale or up to date. -/
def Coherent (base : Library) (id : Nat) (theme : Theme) :
    Option LineState → List DocumentLine → Prop
  | _, [] => True
  | start, line :: rest =>
    Known base id theme line.endState ∧
      (line.stale = false → line.UpToDate base id theme start) ∧
      Coherent base id theme line.endState rest

/-- The first lines, as many as the number says, are not stale. -/
def Settled : Nat → List DocumentLine → Prop
  | 0, _ => True
  | _ + 1, [] => False
  | n + 1, line :: rest => line.stale = false ∧ Settled n rest

/-- The end that the last of some lines keeps. -/
def stateBehind (start : Option LineState) (lines : List DocumentLine) : Option LineState :=
  lines.foldl (fun _ line => line.endState) start

section Coherent

variable {base : Library} {id : Nat} {theme : Theme} {start start' : Option LineState}
  {lines more : List DocumentLine} {line : DocumentLine} {n m : Nat}

/-- Lines are coherent if their first part is and the rest is behind it. -/
theorem coherent_append : Coherent base id theme start (lines ++ more) ↔
    Coherent base id theme start lines ∧
      Coherent base id theme (stateBehind start lines) more := by
  induction lines generalizing start with
  | nil => simp [Coherent, stateBehind]
  | cons line lines ih =>
    rw [List.cons_append, Coherent, Coherent, ih, and_assoc, and_assoc]
    rfl

/-- The state behind two parts is that behind the second, begun behind the first. -/
theorem stateBehind_append (start : Option LineState) (lines more : List DocumentLine) :
    stateBehind start (lines ++ more) = stateBehind (stateBehind start lines) more :=
  List.foldl_append

/-- Nothing is asked of stale lines but that the ends they keep are known. -/
theorem coherent_of_stale (hstale : ∀ line ∈ lines, line.stale = true)
    (hknown : ∀ line ∈ lines, Known base id theme line.endState) :
    Coherent base id theme start lines := by
  induction lines generalizing start with
  | nil => trivial
  | cons line lines ih =>
    obtain ⟨hline, hrest⟩ := List.forall_mem_cons.1 hstale
    obtain ⟨hend, hends⟩ := List.forall_mem_cons.1 hknown
    exact ⟨hend, fun hfresh => absurd (hline.symm.trans hfresh) (by simp), ih hrest hends⟩

/-- Lines whose first one is made stale are coherent wherever they start. -/
theorem Coherent.markFirst (h : Coherent base id theme start lines) (start' : Option LineState) :
    Coherent base id theme start' (Refreshed.markFirst lines) := by
  cases lines with
  | nil => trivial
  | cons line rest =>
    obtain ⟨hknown, -, hrest⟩ := h
    exact ⟨hknown, fun hfresh => absurd hfresh (by simp [DocumentLine.markStale]), hrest⟩

/-- Lines may start in an equivalent state. -/
theorem Coherent.change (h : Coherent base id theme start lines) (hs : base.Sound)
    (hknown : Known base id theme start) (hknown' : Known base id theme start')
    (hstart : SameStart start start') : Coherent base id theme start' lines := by
  cases lines with
  | nil => trivial
  | cons line rest =>
    obtain ⟨hend, hline, hrest⟩ := h
    refine ⟨hend, fun hfresh => ?_, hrest⟩
    obtain ⟨result, hresult, hkeeps⟩ := hline hfresh
    have hsame := tokenizeFrom_same hs hknown hknown' hstart line.text
    revert hsame
    rw [hresult]
    generalize hresult' : base.tokenizeFrom id theme start' line.text = result'
    intro hsame
    cases hsame with
    | @ok _ result' hsame => exact ⟨result', hresult', hkeeps.trans hsame⟩

/-- The state behind coherent lines is known if that in front of them is. -/
theorem Coherent.known_stateBehind (h : Coherent base id theme start lines)
    (hknown : Known base id theme start) : Known base id theme (stateBehind start lines) := by
  induction lines generalizing start with
  | nil => exact hknown
  | cons line lines ih => exact ih h.2.2 h.1

/-- Lines that are settled up to a number are settled up to a smaller one. -/
theorem Settled.mono (h : Settled n lines) (hle : m ≤ n) : Settled m lines := by
  induction n generalizing m lines with
  | zero =>
    obtain rfl := Nat.le_zero.1 hle
    trivial
  | succ n ih =>
    cases lines with
    | nil => exact h.elim
    | cons line rest =>
      cases m with
      | zero => trivial
      | succ m => exact ⟨h.1, ih h.2 (Nat.le_of_succ_le_succ hle)⟩

/-- Only lines that there are can be settled. -/
theorem Settled.le_length (h : Settled n lines) : n ≤ lines.length := by
  induction n generalizing lines with
  | zero => exact Nat.zero_le _
  | succ n ih =>
    cases lines with
    | nil => exact h.elim
    | cons line rest => exact Nat.succ_le_succ (ih h.2)

/-- Lines stay settled when others change behind them. -/
theorem Settled.take_append (h : Settled n lines) (hle : n ≤ m) (more : List DocumentLine) :
    Settled n (lines.take m ++ more) := by
  induction n generalizing m lines with
  | zero => trivial
  | succ n ih =>
    cases lines with
    | nil => exact h.elim
    | cons line rest =>
      obtain ⟨m, rfl⟩ : ∃ k, m = k + 1 := ⟨m - 1, by omega⟩
      exact ⟨h.1, ih h.2 (Nat.le_of_succ_le_succ hle)⟩

end Coherent

/-! ## Bringing lines up to date -/

namespace Refreshed

variable {base lib : Library} {id : Nat} {theme : Theme} {start start' : Option LineState}
  {lines : List DocumentLine} {line : DocumentLine} {n m : Nat}

/-- Marking a line does not change any text. -/
theorem map_text_markFirst (lines : List DocumentLine) :
    (markFirst lines).map (·.text) = lines.map (·.text) := by
  cases lines <;> rfl

/-- What bringing lines up to date keeps, of which so many were settled before. -/
structure Kept (base : Library) (id : Nat) (theme : Theme) (start : Option LineState)
    (lines : List DocumentLine) (settled : Nat) (r : Refreshed) : Prop where
  queried : base.Queried r.library
  texts : r.lines.map (·.text) = lines.map (·.text)
  coherent : Coherent base id theme start r.lines
  settled : Settled (max settled r.valid) r.lines

/-- Whether the line behind a tokenized one is made stale or not, the lines are coherent from its
new end on. -/
theorem coherent_behind (hs : base.Sound) (hknown : Known base id theme line.endState)
    {fresh : DocumentLine} (hknown' : Known base id theme fresh.endState)
    (h : Coherent base id theme line.endState lines) :
    Coherent base id theme fresh.endState
      (if line.endsLike fresh then lines else markFirst lines) := by
  split
  · rename_i hlike
    refine h.change hs hknown hknown' ?_
    unfold DocumentLine.endsLike at hlike
    split at hlike
    · rename_i s t hold hnew
      rw [hold, hnew]
      exact .some hlike
    · exact absurd hlike (by simp)
  · exact h.markFirst _

/-- What becomes of the first of some lines: it cannot be tokenized, and everything is left as it
is; or it is not stale any more, and the work goes on behind it. -/
inductive FirstLine (base : Library) (id : Nat) (theme : Theme) (start : Option LineState)
    (line : DocumentLine) (rest : List DocumentLine) (n : Nat) : Refreshed → Prop
  | failed {lib : Library} {e : Failure} (hq : base.Queried lib)
      (hresult : base.tokenizeFrom id theme start line.text = .error e) :
      FirstLine base id theme start line rest n ⟨.error e, lib, line :: rest, 0, 0⟩
  | done {lib : Library} {fresh : DocumentLine} {behind : List DocumentLine} {count : Nat}
      {result : TokenLine × LineState} (hq : base.Queried lib)
      (hresult : base.tokenizeFrom id theme start line.text = .ok result)
      (hfresh : line.FreshFor base id theme fresh result)
      (hbehind : Coherent base id theme fresh.endState behind)
      (htexts : behind.map (·.text) = rest.map (·.text))
      (hsettled : ∀ m, Settled m (line :: rest) → Settled (m - 1) behind) :
      FirstLine base id theme start line rest n
        ((ofLines id theme n fresh.endState lib behind).cons fresh count)

/-- **The first line fails as the work on its text does, or keeps its result.** -/
theorem ofLines_first (hs : base.Sound) (hq : base.Queried lib)
    (hknown : Known base id theme start) {rest : List DocumentLine}
    (h : Coherent base id theme start (line :: rest)) (n : Nat) :
    FirstLine base id theme start line rest n
      (ofLines id theme (n + 1) start lib (line :: rest)) := by
  obtain ⟨hend, hline, hrest⟩ := h
  rw [ofLines]
  cases hstale : line.stale with
  | false =>
    -- What the line keeps counts as the result, and nothing is done.
    obtain ⟨result, hresult, hkeeps⟩ := hline hstale
    rw [if_neg (by simp)]
    refine .done hq hresult ⟨rfl, hstale, hend, hkeeps⟩ hrest rfl ?_
    intro m hm
    cases m with
    | zero => trivial
    | succ m => exact hm.2
  | true =>
    rw [if_pos rfl]
    have hasked : base.Queried (line.tokenize lib id theme start).2 := queried_tokenize hs hq hknown
    have hsame := @tokenize_same _ _ _ _ _ line hs hq hknown
    generalize line.tokenize lib id theme start = outcome at hasked hsame
    obtain ⟨outcome, lib'⟩ := outcome
    generalize hresult : base.tokenizeFrom id theme start line.text = result at hsame
    cases hsame with
    | error e => exact .failed hasked hresult
    | @ok fresh result hfresh =>
      refine .done hasked hresult hfresh (coherent_behind hs hend hfresh.known hrest) ?_ ?_
      · split
        · rfl
        · exact map_text_markFirst rest
      · intro m hm
        cases m with
        | zero => trivial
        | succ m => exact absurd (hstale.symm.trans hm.1) (by simp)

/-- What becomes of the first line is the same if it starts in an equivalent state. -/
theorem FirstLine.change {rest : List DocumentLine} {r : Refreshed}
    (h : FirstLine base id theme start line rest n r) (hs : base.Sound)
    (hknown : Known base id theme start) (hknown' : Known base id theme start')
    (hstart : SameStart start start') : FirstLine base id theme start' line rest n r := by
  have hsame := tokenizeFrom_same hs hknown hknown' hstart line.text
  generalize hresult' : base.tokenizeFrom id theme start' line.text = result' at hsame
  cases h with
  | failed hq hresult =>
    rw [hresult] at hsame
    cases hsame with
    | error e => exact .failed hq hresult'
  | done hq hresult hfresh hbehind htexts hsettled =>
    rw [hresult] at hsame
    cases hsame with
    | ok hsame =>
      have hfresh' := { hfresh with keeps := hfresh.keeps.trans hsame }
      exact .done hq hresult' hfresh' hbehind htexts hsettled

/-- **Bringing lines up to date keeps their texts, and keeps them coherent**, however far the work
comes. -/
theorem ofLines_kept (hs : base.Sound) (hq : base.Queried lib) (hknown : Known base id theme start)
    (h : Coherent base id theme start lines) {settled : Nat} (hsettled : Settled settled lines)
    (n : Nat) : Kept base id theme start lines settled (ofLines id theme n start lib lines) := by
  induction n generalizing start lib lines settled with
  | zero =>
    rw [ofLines]
    exact ⟨hq, rfl, h, by simpa using hsettled⟩
  | succ n ih =>
    cases lines with
    | nil =>
      have hnil : ofLines id theme (n + 1) start lib [] = ⟨.ok (), lib, [], 0, 0⟩ := by
        rw [ofLines]
        simp
      rw [hnil]
      exact ⟨hq, rfl, h, by simpa using hsettled⟩
    | cons line rest =>
      have hfirst := ofLines_first hs hq hknown h n
      generalize ofLines id theme (n + 1) start lib (line :: rest) = r at hfirst
      cases hfirst with
      | failed hq' _ => exact ⟨hq', rfl, h, by simpa using hsettled⟩
      | @done lib' fresh behind count result hq' hresult hfresh hbehind htexts hfront =>
        have hkept := ih hq' hfresh.known hbehind (hfront settled hsettled)
        refine ⟨hkept.queried, ?_, ⟨hfresh.known, fun _ => ?_, hkept.coherent⟩, ?_⟩
        · simp only [cons, List.map_cons, hkept.texts, htexts, hfresh.text]
        · exact ⟨result, hfresh.text ▸ hresult, hfresh.keeps⟩
        · refine Settled.mono (n := max (settled - 1) _ + 1) ⟨hfresh.stale, hkept.settled⟩ ?_
          simp only [cons]
          omega

/-- **Settled lines are passed over**: the work on them is that on the lines behind. -/
theorem ofLines_settled (h : Settled m lines) (n : Nat) :
    ofLines id theme (m + n) start lib lines =
      let r := ofLines id theme n (stateBehind start (lines.take m)) lib (lines.drop m)
      { r with lines := lines.take m ++ r.lines, valid := m + r.valid } := by
  induction m generalizing start lines with
  | zero => simp [stateBehind]
  | succ m ih =>
    cases lines with
    | nil => exact h.elim
    | cons line rest =>
      have hstale : ¬line.stale = true := by simp [h.1]
      rw [Nat.add_right_comm, ofLines, if_neg hstale, ih h.2]
      simp only [cons, List.take_succ_cons, List.drop_succ_cons, List.cons_append, stateBehind,
        List.foldl_cons]
      congr 1
      omega

end Refreshed

/-! ## Documents -/

namespace Document

/-- The lines of a document are coherent, and those that count as valid are settled. -/
structure Sound (base : Library) (d : Document) : Prop where
  coherent : Coherent base d.grammar d.theme none d.lines
  settled : Settled d.valid d.lines

variable {base lib : Library} {d : Document} {index : Nat}

/-- The state before a line is the end that the line before it keeps. -/
theorem stateBefore_eq (h : index ≤ d.lines.length) :
    d.stateBefore index = stateBehind none (d.lines.take index) := by
  cases index with
  | zero => rfl
  | succ n =>
    have hn : n < d.lines.length := h
    rw [List.take_succ_eq_append_getElem hn, stateBehind_append]
    simp only [stateBefore, List.getElem?_eq_getElem hn, Option.bind_some, stateBehind,
      List.foldl_cons, List.foldl_nil]

/-- **Bringing lines up to date may as well begin with the first line**, because the lines that are
valid are passed over. -/
theorem refresh_eq (h : Settled d.valid d.lines) (lib : Library) (index : Nat) :
    d.refresh lib index =
      let r := Refreshed.ofLines d.grammar d.theme (index + 1) none lib d.lines
      (r.outcome, r.library, { d with
        lines := r.lines
        valid := max d.valid r.valid
        tokenized := d.tokenized + r.tokenized }) := by
  unfold refresh
  rcases Nat.le_total d.valid (index + 1) with hle | hle
  · obtain ⟨n, hn⟩ : ∃ n, index + 1 = d.valid + n := ⟨index + 1 - d.valid, by omega⟩
    rw [hn, Refreshed.ofLines_settled h, stateBefore_eq h.le_length, Nat.add_sub_cancel_left]
    simp
  · -- All of these lines are valid already.
    have hzero : index + 1 - d.valid = 0 := by omega
    have hall : Refreshed.ofLines d.grammar d.theme (index + 1) none lib d.lines = _ :=
      Refreshed.ofLines_settled (h.mono hle) 0
    rw [hzero, hall]
    simp only [Refreshed.ofLines, List.take_append_drop, Nat.add_zero, Nat.max_eq_left hle]

namespace Sound

/-- Bringing lines up to date keeps a document sound. -/
theorem refresh (h : d.Sound base) (hs : base.Sound) (hq : base.Queried lib) (index : Nat) :
    (d.refresh lib index).2.2.Sound base := by
  have hkept := Refreshed.ofLines_kept hs hq (known_none _ _ _) h.coherent h.settled (index + 1)
  rw [refresh_eq h.settled]
  exact ⟨hkept.coherent, hkept.settled⟩

/-- A new document is sound. -/
theorem ofText (base : Library) (id : Nat) (theme : Theme) (texts : List String) :
    Sound base { grammar := id, theme, lines := texts.map .ofText } where
  coherent := by
    refine coherent_of_stale ?_ ?_
    · intro line hline
      obtain ⟨text, -, rfl⟩ := List.mem_map.1 hline
      rfl
    · intro line hline state hstate
      obtain ⟨text, -, rfl⟩ := List.mem_map.1 hline
      exact absurd hstate (by simp [DocumentLine.ofText])
  settled := trivial

/-- Another theme keeps a document sound. -/
theorem setTheme (d : Document) (theme : Theme) : (d.setTheme theme).Sound base := by
  have hlines : d.lines.map (fun line => DocumentLine.ofText line.text) =
      (d.lines.map (·.text)).map .ofText := by rw [List.map_map]; rfl
  have h := ofText base d.grammar theme (d.lines.map (·.text))
  rw [← hlines] at h
  exact ⟨h.coherent, trivial⟩

end Sound

/-- Giving the last of some lines an end to compare with changes neither their texts nor whether
they are stale. -/
theorem map_carry {α : Type} (f : DocumentLine → α)
    (hf : ∀ line state, f { line with endState := state } = f line) (state : Option LineState)
    (lines : List DocumentLine) : (carry state lines).map f = lines.map f := by
  induction lines with
  | nil => rfl
  | cons line rest ih =>
    cases rest with
    | nil => simp [carry, hf]
    | cons next rest => exact congrArg (f line :: ·) ih

/-- The last of some lines ends with the state that is carried over to it. -/
theorem stateBehind_carry (start state : Option LineState) {lines : List DocumentLine}
    (h : lines ≠ []) : stateBehind start (carry state lines) = state := by
  induction lines generalizing start with
  | nil => exact absurd rfl h
  | cons line rest ih =>
    cases rest with
    | nil => rfl
    | cons next rest => exact ih line.endState (by simp)

/-- The ends of lines are known if those that they kept are, and the one that is carried over. -/
theorem known_carry {id : Nat} {theme : Theme} {state : Option LineState}
    (hstate : Known base id theme state) {lines : List DocumentLine}
    (h : ∀ line ∈ lines, Known base id theme line.endState) :
    ∀ line ∈ carry state lines, Known base id theme line.endState := by
  induction lines with
  | nil => exact h
  | cons line rest ih =>
    obtain ⟨hline, hrest⟩ := List.forall_mem_cons.1 h
    cases rest with
    | nil => exact List.forall_mem_cons.2 ⟨hstate, fun _ hmem => absurd hmem (by simp)⟩
    | cons next rest => exact List.forall_mem_cons.2 ⟨hline, ih hrest⟩


/-- **Putting lines in the place of others keeps a document sound**, wherever the range lies: the
lines that are put in are stale, and the line behind them starts as it did before or is stale. -/
theorem Sound.replace (h : d.Sound base) (range : Text.Span) (texts : List String) :
    (d.replace range texts).Sound base := by
  dsimp only [Document.replace]
  generalize hstop : min range.stop d.lines.length = stop
  have hle : stop ≤ d.lines.length := by omega
  generalize hstart : min range.start stop = start
  have hfront := (coherent_append.1 ((List.take_append_drop start d.lines).symm ▸ h.coherent)).1
  obtain ⟨hdeleted, hbehind⟩ :=
    coherent_append.1 ((List.take_append_drop stop d.lines).symm ▸ h.coherent)
  have hcarried : Known base d.grammar d.theme (d.stateBefore stop) := by
    rw [stateBefore_eq hle]
    exact hdeleted.known_stateBehind (known_none _ _ _)
  refine ⟨?_, ?_⟩
  · rw [List.append_assoc]
    refine coherent_append.2 ⟨hfront, ?_⟩
    cases texts with
    | nil =>
      -- Nothing is put in: the line behind starts elsewhere now, and is stale.
      exact hbehind.markFirst _
    | cons text texts =>
      -- The lines behind go on from the end that was carried over, which is where they started.
      refine coherent_append.2 ⟨coherent_of_stale ?_ ?_, ?_⟩
      · intro line hline
        have hmem := List.mem_map_of_mem (f := DocumentLine.stale) hline
        rw [map_carry _ fun _ _ => rfl, List.map_map] at hmem
        obtain ⟨_, -, hstale⟩ := List.mem_map.1 hmem
        exact hstale.symm
      · refine known_carry hcarried fun line hline state hstate => ?_
        obtain ⟨text, -, rfl⟩ := List.mem_map.1 hline
        exact absurd hstate (by simp [DocumentLine.ofText])
      · rw [stateBehind_carry _ _ (by simp), stateBefore_eq hle]
        exact hbehind
  · rw [List.append_assoc]
    exact (h.settled.mono (Nat.min_le_left _ _)).take_append (Nat.min_le_right _ _) _

end Document

end ScopePaint
