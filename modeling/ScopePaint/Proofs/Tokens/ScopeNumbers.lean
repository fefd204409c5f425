import ScopePaint.Proofs.Tokens.CaptureScopes

/-!
# The numbers of scopes on a line

While a line is cut into tokens, each scope that is opened gets a number that no scope has so far:
the numbers of all scopes around the place and around the tokens so far are below the next free one
and tell these scopes apart (`Progress.Counted`). A step opens its scopes with free numbers and
moves the free one behind them (`Progress.Went.counted`), so the scopes on a whole line are told
apart if those at its start are (`Library.toldApart_tokenizeLine`). A document starts with one
scope, so they are told apart in each state that tokenizing leads to (`Library.Reaches.toldApart`),
and wherever on a line the tokens of a match are taken up.
-/

set_option autoImplicit false

namespace ScopePaint

section Known

variable {number : Nat} {known stack : List Scope} {theme : Theme} {l l' : TokenLine}

/-- A scope with the free number is told apart from those that are known. -/
theorem Numbered.open (h : Numbered number known) {s : Scope} (hs : s.number = number) :
    Numbered (number + 1) (s :: known) := by
  refine (h.mono (Nat.le_succ number)).cons (fun t ht => ?_) (hs ▸ Nat.lt_succ_self number)
  exact hs ▸ Nat.ne_of_lt (h.fresh t ht)

/-- What holds of the scopes of all tokens holds more loosely. -/
theorem TokenLine.Inside.mono {P Q : ScopeStack → Prop} (h : l.Inside P)
    (hPQ : ∀ s, P s → Q s) : l.Inside Q := fun t ht => hPQ t.scopes (h t ht)

/-- Taking up the tokens of a match adds known scopes with numbers from the free one on. -/
theorem TokenLine.Inside.exists_known_captures (h : l.Inside (· ⊆ known))
    (hknown : Numbered number known) (hstack : stack ⊆ known) {lineLength : Nat} {m : Match}
    {captures : Captures}
    (hl : l.mergeAll? (captureTokens theme lineLength m stack captures number) = some l') :
    ∃ known', known ⊆ known' ∧ Numbered (number + captures.length) known' ∧
      l'.Inside (· ⊆ known') := by
  obtain ⟨known', hsubset, hknown', htokens⟩ :=
    exists_known_captureTokens theme hknown hstack lineLength m captures
  refine ⟨known', hsubset, hknown', ?_⟩
  exact (h.mono fun s hs => List.Subset.trans hs hsubset).mergeAll? htokens hl

end Known

namespace Progress

/-- The scopes around the place and around all tokens so far are known, and their numbers tell them
apart and are not free. -/
structure CountedIn (known : List Scope) (p : Progress) : Prop where
  numbered : Numbered p.number known
  stack : p.stack ⊆ known
  line : p.line.Inside (· ⊆ known)

/-- The numbers of all scopes so far tell them apart and are below the next free one. -/
def Counted (p : Progress) : Prop := ∃ known, p.CountedIn known

section Step

variable {known : List Scope} {lib lib' mid : Library} {theme : Theme} {scope : ScopeName}
  {line : List Char} {p q m : Progress} {hit : Match} {step : Step}

/-- All scopes on the stack and on tokens are numbered below the next number. -/
theorem Counted.numbered (h : p.Counted) :
    Numbered p.number (p.stack ++ p.line.tokens.flatMap (·.scopes)) := by
  obtain ⟨known, hknown⟩ := h
  refine hknown.numbered.subset (List.append_subset.2 ⟨hknown.stack, fun s hs => ?_⟩)
  obtain ⟨t, ht, hst⟩ := List.mem_flatMap.1 hs
  exact hknown.line.tokens t ht hst

/-- Moving on keeps the numbers of scopes counted. -/
theorem CountedIn.moveTo (h : p.CountedIn known) {pos : Nat} (hmove : p.moveTo pos = .ok m) :
    m.CountedIn known := by
  obtain ⟨l, hl, rfl⟩ := moveTo_ok hmove
  exact ⟨h.numbered, h.stack,
    h.line.mergeAll? (fun t ht => scopes_of_mem_tokenOf ht ▸ h.stack) hl⟩

/-- So does reading a character. -/
theorem Consumed.countedIn (hq : Consumed line m q) (h : m.CountedIn known) :
    q.CountedIn known := by
  cases hq with
  | mk inside hwidth hl =>
    refine ⟨h.numbered, h.stack, h.line.mergeAll? (fun t ht => ?_) hl⟩
    rw [List.mem_singleton.1 ht]
    exact h.stack

/-- The scope of a rule has the free number. -/
theorem CountedIn.exists_known_singleStack (h : m.CountedIn known) (theme : Theme)
    (rule : MatchRule) :
    ∃ known', known ⊆ known' ∧ Numbered (m.number + 1) known' ∧
      m.singleStack theme rule ⊆ known' := by
  unfold singleStack
  cases rule.scope with
  | none => exact ⟨known, List.Subset.refl _, h.numbered.mono (Nat.le_succ _), h.stack⟩
  | some name =>
    exact ⟨_, List.subset_cons_self _ _, h.numbered.open rfl, List.cons_subset_cons _ h.stack⟩

/-- The scope of a region's content has the free number behind those of its begin. -/
theorem exists_known_openedLevels {r : Region} {stop : Regex} {rules : List Rule}
    (hknown : Numbered (m.number + 1 + r.startCaptures.length) known)
    (hstack : m.regionScope theme r stop rules :: m.stack ⊆ known) :
    ∃ known', known ⊆ known' ∧ Numbered (m.number + 1 + r.startCaptures.length + 1) known' ∧
      (m.openedLevels theme hit r stop rules).map (·.scope) ⊆ known' := by
  unfold openedLevels
  cases r.content with
  | none => exact ⟨known, List.Subset.refl _, hknown.mono (Nat.le_succ _), hstack⟩
  | some name =>
    exact ⟨_, List.subset_cons_self _ _, hknown.open rfl, List.cons_subset_cons _ hstack⟩

/-- **A step opens scopes with free numbers** and moves the free one behind them. -/
theorem Went.counted (hwent : Went lib theme line m hit step q lib') (h : m.CountedIn known) :
    q.Counted := by
  cases hwent with
  | ended hl =>
    have hregion : m.regionLevels.map (·.scope) ⊆ known := by
      rw [map_scope_regionLevels]
      exact List.Subset.trans (ScopeStack.regionPart_suffix m.stack).subset h.stack
    obtain ⟨known', hsubset, hnumbered, hline⟩ :=
      h.line.exists_known_captures h.numbered hregion hl
    refine ⟨known', hnumbered, ?_, hline⟩
    show (m.regionLevels.drop 1).map (·.scope) ⊆ known'
    rw [List.map_drop]
    exact List.Subset.trans (List.drop_subset _ _) (List.Subset.trans hregion hsubset)
  | @matched rule l hlt hl =>
    obtain ⟨opened, hgrown, hopened, hstack⟩ := h.exists_known_singleStack theme rule
    have hinside := h.line.mono fun s hs => List.Subset.trans hs hgrown
    obtain ⟨known', hsubset, hnumbered, hline⟩ := hinside.exists_known_captures hopened hstack hl
    exact ⟨known', hnumbered,
      List.Subset.trans h.stack (List.Subset.trans hgrown hsubset), hline⟩
  | skipped hempty hc => exact ⟨known, hc.countedIn h⟩
  | passed hrepeats hc => exact ⟨known, hc.countedIn h⟩
  | @begun r ps stop rules l hrepeats hstop hrules hl =>
    have hopened : Numbered (m.number + 1) (m.regionScope theme r stop rules :: known) :=
      h.numbered.open rfl
    have hinside := h.line.mono fun s hs =>
      List.Subset.trans hs (List.subset_cons_self (m.regionScope theme r stop rules) known)
    have hstack := List.cons_subset_cons (m.regionScope theme r stop rules) h.stack
    obtain ⟨known', hsubset, hnumbered, hline⟩ := hinside.exists_known_captures hopened hstack hl
    obtain ⟨known'', hgrown, hnumbered', hstack'⟩ :=
      exists_known_openedLevels hnumbered (List.Subset.trans hstack hsubset)
    exact ⟨known'', hnumbered', hstack', hline.mono fun s hs => List.Subset.trans hs hgrown⟩

/-- **Any number of steps keeps the scopes told apart.** -/
theorem Reached.counted (hr : Reached theme scope line lib p mid q) (h : p.Counted) :
    q.Counted := by
  induction hr with
  | refl => exact h
  | step _ hstep ih =>
    obtain ⟨known, hknown⟩ := ih
    obtain ⟨found, m, -, hmove, hwent⟩ := step_went hstep
    exact hwent.counted (hknown.moveTo hmove)

/-- The scopes at the start of a line are told apart by their numbers. -/
theorem counted_start {state : LineState} (h : ToldApart state.stack) : (start state).Counted := by
  refine ⟨state.stack, ⟨h, fun s hs => ?_⟩, by rw [stack_start]; exact List.Subset.refl _,
    fun t ht => absurd ht (by simp [start, TokenLine.empty])⟩
  exact ScopeStack.number_lt_freshNumber s hs

end Step

end Progress

namespace Library

section Lines

variable {base lib : Library} {id : Nat} {themes : Theme → Prop} {theme : Theme}
  {line : List Char} {state next : LineState} {tokens : TokenLine}

/-- The rules of the grammar are found if a line is cut into tokens. -/
theorem rules_of_tokenizeLine
    (hline : (lib.tokenizeLine id theme line state).1 = .ok (tokens, next)) :
    ∃ rules, (lib.rules id).1 = .ok rules := by
  unfold tokenizeLine at hline
  cases hrules : lib.rules id with
  | mk result lib' =>
    cases result with
    | ok rules => exact ⟨rules, rfl⟩
    | error e =>
      rw [hrules] at hline
      exact absurd hline (by simp)

/-- **The scopes on a line are told apart** if those at its start are. -/
theorem toldApart_tokenizeLine (h : ToldApart state.stack)
    (hline : (lib.tokenizeLine id theme line state).1 = .ok (tokens, next)) :
    ToldApart (next.stack ++ tokens.tokens.flatMap (·.scopes)) := by
  obtain ⟨rules, hrules⟩ := rules_of_tokenizeLine hline
  rw [tokenizeLine_fst hrules] at hline
  split at hline
  · obtain ⟨rfl, rfl⟩ := Prod.mk.inj (Except.ok.inj hline)
    have hscopes : ∀ u ∈ state.stack ++ (TokenLine.tokens
        ⟨[⟨⟨0, Text.byteLength line⟩, state.stack⟩]⟩).flatMap (·.scopes), u ∈ state.stack := by
      simp [TokenLine.tokens]
    exact fun s hs t ht => h s (hscopes s hs) t (hscopes t ht)
  · obtain ⟨p, hp, hfinish⟩ := bind_eq_ok_iff.1 hline
    obtain ⟨q, hmove, hnext⟩ := bind_eq_ok_iff.1 hfinish
    obtain ⟨rfl, rfl⟩ := Prod.mk.inj (Except.ok.inj hnext)
    obtain ⟨mid, hreached, -⟩ := Progress.run_ok (Prod.ext hp rfl)
    obtain ⟨known, hknown⟩ := hreached.counted (Progress.counted_start h)
    have hcounted : q.Counted := ⟨known, hknown.moveTo hmove⟩
    exact hcounted.numbered.toldApart

/-- **In each state that tokenizing leads to the scopes are told apart.** -/
theorem Reaches.toldApart (h : base.Reaches id themes state) : ToldApart state.stack := by
  induction h with
  | first hq ht hfirst =>
    rw [firstLineState_fst] at hfirst
    obtain ⟨rules, -, hfirst⟩ := bind_eq_ok_iff.1 hfirst
    split at hfirst
    · obtain rfl := Except.ok.inj hfirst
      simp [ToldApart, LineState.first]
    · exact absurd hfirst (by simp)
  | next _ hq ht hline ih =>
    intro s hs t ht'
    exact toldApart_tokenizeLine ih hline s (List.mem_append_left _ hs) t
      (List.mem_append_left _ ht')

end Lines

end Library

end ScopePaint
