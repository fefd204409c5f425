import ScopePaint.Proofs.Tokens.StackShape

/-!
# The scopes around tokens

The scopes of a match and those of its groups are put on top of the stack around the place for the
tokens of the match only; they never get onto that stack itself. So each token lies inside of a
stack that can arise at some place, with such scopes on top (`ScopeStack.Topped`), and with the same
scope outermost as everywhere else in the document (`Library.topped_tokenizeLine`).

What is shown of the stacks of tokens here holds of any property that the stacks at places have:
tokens are only made of these by `captureTokens` or out of the text between matches
(`Progress.Went.linesInside`).
-/

set_option autoImplicit false

namespace ScopePaint

open Text (byteLength)

/-! ## Scopes on top -/

namespace ScopeStack

/-- A stack with a property, with scopes of a match and of its groups on top. -/
inductive Topped (theme : Theme) (P : ScopeStack → Prop) : ScopeStack → Prop
  | bare {stack : ScopeStack} (h : P stack) : Topped theme P stack
  | inside {stack : ScopeStack} (number : Nat) (name : ScopeName) (h : Topped theme P stack) :
      Topped theme P (Scope.inside theme number (some name) stack :: stack)

/-- A stack that can arise in the grammar with a number, with a given scope outermost. -/
structure Rooted (lib : Library) (id : Nat) (themes : Theme → Prop) (root : Scope)
    (stack : ScopeStack) : Prop where
  shaped : stack.Shaped lib id themes
  outermost : stack.getLast? = some root

section Rooted

variable {lib : Library} {id : Nat} {themes : Theme → Prop} {root : Scope} {stack : ScopeStack}

/-- Without a content scope on top, what is left is a stack that can arise. -/
theorem Shaped.regionPart (h : Shaped lib id themes stack) :
    Shaped lib id themes stack.regionPart := by
  cases h with
  | root ht hg hrules => exact .root ht hg hrules
  | region h ht hnumber hr hstop hrules => exact .region h ht hnumber hr hstop hrules
  | content h _ _ _ _ => exact h

/-- Stacks one of which is a part of the other have the same scope outermost. -/
theorem getLast?_of_suffix {s t : ScopeStack} (h : s <:+ t) (hs : s ≠ []) :
    t.getLast? = s.getLast? := by
  obtain ⟨front, rfl⟩ := h
  exact List.getLast?_append_of_ne_nil front hs

/-- The stack up to a region is the outer part of it. -/
theorem regionPart_suffix (stack : ScopeStack) : stack.regionPart <:+ stack := by
  unfold ScopeStack.regionPart
  split
  · exact List.suffix_rfl
  · split
    · exact List.suffix_cons _ _
    · exact List.suffix_rfl

/-- A part of a stack that can arise, if it can arise itself, is rooted as the whole stack is. -/
theorem Rooted.of_suffix (h : Rooted lib id themes root stack) {s : ScopeStack}
    (hs : s <:+ stack) (hshaped : Shaped lib id themes s) : Rooted lib id themes root s :=
  ⟨hshaped, (getLast?_of_suffix hs hshaped.ne_nil).symm.trans h.outermost⟩

/-- What grows on top of a rooted stack is rooted in the same scope. -/
theorem Rooted.of_prefix (h : Rooted lib id themes root stack) {t : ScopeStack}
    (ht : stack <:+ t) (hshaped : Shaped lib id themes t) : Rooted lib id themes root t :=
  ⟨hshaped, (getLast?_of_suffix ht h.shaped.ne_nil).trans h.outermost⟩

/-- The stack up to a region has the root of the whole stack. -/
theorem Rooted.regionPart (h : Rooted lib id themes root stack) :
    Rooted lib id themes root stack.regionPart :=
  h.of_suffix (regionPart_suffix stack) h.shaped.regionPart

end Rooted

end ScopeStack

/-! ## The tokens of a match -/

open ScopeStack (Topped)

section Captures

variable {theme : Theme} {P : ScopeStack → Prop} {base : ScopeStack}

/-- A token has the scopes it was made with. -/
theorem scopes_of_mem_tokenOf {start stop : Nat} {stack : ScopeStack} {t : Token}
    (h : t ∈ tokenOf start stop stack) : t.scopes = stack := by
  unfold tokenOf at h
  split at h
  · rw [List.mem_singleton] at h
    rw [h]
  · exact absurd h (by simp)

/-- The scopes for the whole match are scopes on top. -/
theorem topped_wholeStack (number : Nat) {stack : ScopeStack} (h : Topped theme P stack)
    (captures : Captures) : Topped theme P (wholeStack theme number stack captures) := by
  induction captures generalizing number stack with
  | nil => exact h
  | cons entry rest ih =>
    obtain ⟨index, name⟩ := entry
    rw [wholeStack]
    split
    · exact ih (number + 1) (.inside number name h)
    · exact ih (number + 1) h

/-- Closing groups makes tokens inside of these groups, and leaves some of the groups. -/
theorem of_closeGroups (limit cursor : Nat) {opened : List OpenGroup}
    (h : ∀ g ∈ opened, P g.stack) :
    (∀ t ∈ (closeGroups limit cursor opened).1, P t.scopes) ∧
      ∀ g ∈ (closeGroups limit cursor opened).2.2, P g.stack := by
  induction opened generalizing cursor with
  | nil => simp [closeGroups]
  | cons g rest ih =>
    obtain ⟨hg, hrest⟩ := List.forall_mem_cons.1 h
    rw [closeGroups]
    split
    · obtain ⟨htokens, hleft⟩ := ih g.stop hrest
      refine ⟨fun t ht => ?_, hleft⟩
      rcases List.mem_append.1 ht with ht | ht
      · exact scopes_of_mem_tokenOf ht ▸ hg
      · exact htokens t ht
    · exact ⟨by simp, h⟩

/-- What holds of the stacks of open groups holds of the tokens that closing them gives. -/
theorem of_closeAll {cursor : Nat} {opened : List OpenGroup} (h : ∀ g ∈ opened, P g.stack) :
    ∀ t ∈ (closeAll cursor opened).1, P t.scopes := by
  induction opened generalizing cursor with
  | nil => simp [closeAll]
  | cons g rest ih =>
    obtain ⟨hg, hrest⟩ := List.forall_mem_cons.1 h
    intro t ht
    rw [closeAll] at ht
    rcases List.mem_append.1 ht with ht | ht
    · exact scopes_of_mem_tokenOf ht ▸ hg
    · exact ih hrest t ht

/-- **The tokens of groups lie inside of the scopes of the groups that are open**, or of those
around the match. -/
theorem topped_groupTokens (hbase : Topped theme P base) {stop cursor : Nat}
    {opened : List OpenGroup} (h : ∀ g ∈ opened, Topped theme P g.stack)
    (groups : List NamedGroup) :
    ∀ t ∈ groupTokens theme base stop cursor opened groups, Topped theme P t.scopes := by
  induction groups generalizing cursor opened with
  | nil =>
    intro t ht
    rw [groupTokens] at ht
    rcases List.mem_append.1 ht with ht | ht
    · exact of_closeAll h t ht
    · exact scopes_of_mem_tokenOf ht ▸ hbase
  | cons g rest ih =>
    obtain ⟨hclosed, hleft⟩ := of_closeGroups g.range.start cursor h
    intro t ht
    rw [groupTokens] at ht
    generalize closeGroups g.range.start cursor opened = closing at hclosed hleft ht
    obtain ⟨closed, place, left⟩ := closing
    dsimp only at hclosed hleft ht
    rcases List.mem_append.1 ht with ht | ht
    · exact hclosed t ht
    · split at ht
      · exact ih hleft t ht
      · -- The group opens inside of the innermost one that is still open, or of the scopes around.
        rcases List.mem_append.1 ht with ht | ht
        · rw [scopes_of_mem_tokenOf ht]
          cases left with
          | nil => exact hbase
          | cons o others => exact hleft o List.mem_cons_self
        · refine ih (List.forall_mem_cons.2 ⟨.inside g.number g.name ?_, hleft⟩) t ht
          cases left with
          | nil => exact hbase
          | cons o others => exact hleft o List.mem_cons_self

/-- **The tokens of a match lie inside of the scopes around it**, with scopes for the match and its
groups on top. -/
theorem topped_captureTokens {stack : ScopeStack} (h : Topped theme P stack) (lineLength : Nat)
    (m : Match) (captures : Captures) (number : Nat) :
    ∀ t ∈ captureTokens theme lineLength m stack captures number, Topped theme P t.scopes := by
  intro t ht
  unfold captureTokens at ht
  split at ht
  · exact absurd ht (by simp)
  · exact topped_groupTokens (topped_wholeStack number h captures) (by simp) _ t ht

end Captures

/-! ## The tokens of a line -/

namespace TokenLine

/-- All tokens of a line lie inside of stacks that have a property. -/
def Inside (P : ScopeStack → Prop) (l : TokenLine) : Prop := ∀ t ∈ l.latest, P t.scopes

variable {P : ScopeStack → Prop} {l l' : TokenLine}

/-- What holds of the scopes of a line holds of those of its tokens. -/
theorem Inside.tokens (h : l.Inside P) : ∀ t ∈ l.tokens, P t.scopes :=
  fun t ht => h t (List.mem_reverse.1 ht)

/-- It holds without an empty token at the end. -/
theorem Inside.dropEmptyEnd (h : l.Inside P) : l.dropEmptyEnd.Inside P := by
  unfold TokenLine.dropEmptyEnd
  split
  · exact h
  · rename_i t rest hlatest
    split
    · exact fun u hu => h u (hlatest ▸ List.mem_cons_of_mem t hu)
    · exact h

/-- It holds with another token whose scopes it holds of. -/
theorem Inside.add? (h : l.Inside P) {t : Token} (ht : P t.scopes) (hadd : l.add? t = some l') :
    l'.Inside P := by
  unfold TokenLine.add? at hadd
  dsimp only at hadd
  split at hadd
  · obtain rfl := Option.some.inj hadd
    exact List.forall_mem_cons.2 ⟨ht, h.dropEmptyEnd⟩
  · exact absurd hadd (by simp)

/-- A token that grows keeps its scopes. -/
theorem Inside.merge? (h : l.Inside P) {t : Token} (ht : P t.scopes)
    (hmerge : l.merge? t = some l') : l'.Inside P := by
  have hdrop := h.dropEmptyEnd
  unfold TokenLine.merge? at hmerge
  split at hmerge
  · obtain rfl := Option.some.inj hmerge
    exact h
  · dsimp only at hmerge
    split at hmerge
    · rename_i last rest hlatest
      split at hmerge
      · obtain rfl := Option.some.inj hmerge
        have hall : ∀ u ∈ last :: rest, P u.scopes := hlatest ▸ hdrop
        exact List.forall_mem_cons.2 (List.forall_mem_cons.1 hall)
      · exact hdrop.add? ht hmerge
    · exact hdrop.add? ht hmerge

/-- What holds of the scopes of a line holds with several tokens merged in. -/
theorem Inside.mergeAll? (h : l.Inside P) {tokens : List Token}
    (htokens : ∀ t ∈ tokens, P t.scopes) (hmerge : l.mergeAll? tokens = some l') :
    l'.Inside P := by
  unfold TokenLine.mergeAll? at hmerge
  induction tokens generalizing l with
  | nil =>
    obtain rfl := Option.some.inj hmerge
    exact h
  | cons t tokens ih =>
    obtain ⟨ht, hrest⟩ := List.forall_mem_cons.1 htokens
    rw [List.foldlM_cons] at hmerge
    obtain ⟨mid, hmid, hmerge⟩ := Option.bind_eq_some_iff.1 hmerge
    exact ih (h.merge? ht hmid) hrest hmerge

end TokenLine

/-! ## Steps -/

namespace Progress

section Step

variable {lib lib' base : Library} {id : Nat} {themes : Theme → Prop} {theme : Theme}
  {scope : ScopeName} {line : List Char} {p q m : Progress} {hit : Match} {step : Step}
  {P : ScopeStack → Prop} {root : Scope}

/-- Moving on makes a token inside of the stack around the place. -/
theorem linesInside_moveTo (h : p.line.Inside (Topped theme P)) (hstack : P p.stack) {pos : Nat}
    (hmove : p.moveTo pos = .ok m) : m.line.Inside (Topped theme P) := by
  obtain ⟨l, hl, rfl⟩ := moveTo_ok hmove
  exact h.mergeAll? (fun t ht => scopes_of_mem_tokenOf ht ▸ .bare hstack) hl

/-- Reading a character keeps the scopes of a line inside. -/
theorem Consumed.linesInside (hq : Consumed line m q) (h : m.line.Inside (Topped theme P))
    (hstack : P m.stack) : q.line.Inside (Topped theme P) := by
  cases hq with
  | mk inside hwidth hl =>
    exact h.mergeAll? (fun t ht => by rw [List.mem_singleton.1 ht]; exact .bare hstack) hl

/-- The stack for a single match has its scopes on top. -/
theorem topped_singleStack (hstack : P m.stack) (rule : MatchRule) :
    Topped theme P (m.singleStack theme rule) := by
  unfold singleStack
  split
  · exact .inside m.number _ (.bare hstack)
  · exact .bare hstack

/-- **The tokens that a step makes lie inside of stacks at places**: of the one around the place, of
that of the region that ends, or of that of the region that begins. -/
theorem Went.linesInside (hwent : Went lib theme line m hit step q lib')
    (h : m.line.Inside (Topped theme P)) (hstack : P m.stack) (hregion : P m.stack.regionPart)
    (hopened : ∀ r ps stop rules, step = .region r ps → r.stop.resolve line hit = .ok stop →
      (lib.nestedRules r ps).1 = .ok rules → P (m.regionScope theme r stop rules :: m.stack)) :
    q.line.Inside (Topped theme P) := by
  cases hwent with
  | ended hl =>
    rw [map_scope_regionLevels] at hl
    exact h.mergeAll? (topped_captureTokens (.bare hregion) _ _ _ _) hl
  | matched hlt hl =>
    exact h.mergeAll? (topped_captureTokens (topped_singleStack hstack _) _ _ _ _) hl
  | skipped hempty hc => exact hc.linesInside h hstack
  | passed hrepeats hc => exact hc.linesInside h hstack
  | begun hrepeats hstop hrules hl =>
    exact h.mergeAll?
      (topped_captureTokens (.bare (hopened _ _ _ _ rfl hstop hrules)) _ _ _ _) hl

/-- A step takes scopes off the stack or puts some on it, not both. -/
theorem Went.suffix (hwent : Went lib theme line m hit step q lib') :
    q.stack <:+ m.stack ∨ m.stack <:+ q.stack := by
  cases hwent with
  | ended hl =>
    refine Or.inl ?_
    show (m.regionLevels.drop 1).map (·.scope) <:+ m.stack
    rw [List.map_drop, map_scope_regionLevels]
    exact (List.drop_suffix _ _).trans (ScopeStack.regionPart_suffix m.stack)
  | matched hlt hl => exact Or.inl List.suffix_rfl
  | skipped hempty hc =>
    cases hc
    exact Or.inl List.suffix_rfl
  | passed hrepeats hc =>
    cases hc
    exact Or.inl List.suffix_rfl
  | @begun r ps stop rules l hrepeats hstop hrules hl =>
    refine Or.inr ?_
    show m.stack <:+ (m.openedLevels theme hit r stop rules).map (·.scope)
    unfold openedLevels
    dsimp only
    split
    · exact ((List.suffix_cons _ _).trans (List.suffix_cons _ _))
    · exact List.suffix_cons _ _

/-- The stack around the place and those of all tokens so far can arise, and have a given scope
outermost. -/
structure Founded (base : Library) (id : Nat) (themes : Theme → Prop) (theme : Theme)
    (root : Scope) (p : Progress) : Prop where
  wellShaped : p.WellShaped base id themes
  outermost : p.stack.getLast? = some root
  line : p.line.Inside (Topped theme (ScopeStack.Rooted base id themes root))

/-- A founded place has a rooted stack. -/
theorem Founded.rooted (h : p.Founded base id themes theme root) :
    p.stack.Rooted base id themes root :=
  ⟨h.wellShaped.shaped, h.outermost⟩

/-- Moving on keeps a place founded. -/
theorem Founded.moveTo (h : p.Founded base id themes theme root) {pos : Nat}
    (hmove : p.moveTo pos = .ok m) : m.Founded base id themes theme root := by
  refine ⟨h.wellShaped.moveTo hmove, ?_, linesInside_moveTo h.line h.rooted hmove⟩
  obtain ⟨l, -, rfl⟩ := moveTo_ok hmove
  exact h.outermost

/-- A line starts founded if its state is rooted. -/
theorem founded_start {state : LineState} (h : state.stack.Rooted base id themes root) :
    (start state).Founded base id themes theme root :=
  ⟨wellShaped_start h.shaped, by rw [stack_start]; exact h.outermost,
    fun t ht => absurd ht (by simp [start, TokenLine.empty])⟩

/-- **A step keeps the scope that is outermost**, of the stack around the place and of all tokens.
-/
theorem step_founded (hs : base.Sound) (hq : base.Queried lib) (ht : themes theme)
    (h : p.Founded base id themes theme root)
    (hstep : p.step lib theme scope line = (.ok (some q), lib')) :
    q.Founded base id themes theme root ∧ base.Queried lib' := by
  obtain ⟨hshaped, hq'⟩ := step_wellShaped hs hq ht h.wellShaped hstep
  obtain ⟨found, m, hnext, hmove, hwent⟩ := step_went hstep
  have hm := h.moveTo hmove
  refine ⟨⟨hshaped, ?_, hwent.linesInside hm.line hm.rooted hm.rooted.regionPart ?_⟩, hq'⟩
  · rcases hwent.suffix with hsuffix | hsuffix
    · exact (hm.rooted.of_suffix hsuffix hshaped.shaped).outermost
    · exact (hm.rooted.of_prefix hsuffix hshaped.shaped).outermost
  · intro r ps stop rules hregion hstop hrules
    have hr := h.wellShaped.region_mem hs hnext hregion
    have hanswer : (base.nestedRules r ps).1 = .ok rules :=
      ((hq.agrees hs).nested (r, ps) hr).trans hrules
    exact hm.rooted.of_prefix (List.suffix_cons _ _)
      (.region hm.wellShaped.shaped ht hm.wellShaped.fresh hr ⟨line, _, hstop⟩ hanswer)

/-- What holds of stacks and tokens goes on holding through any number of steps. -/
theorem Reached.founded (hr : Reached theme scope line lib p lib' q) (hs : base.Sound)
    (hq : base.Queried lib) (ht : themes theme) (h : p.Founded base id themes theme root) :
    q.Founded base id themes theme root ∧ base.Queried lib' := by
  induction hr with
  | refl => exact ⟨h, hq⟩
  | step _ hstep ih => exact step_founded hs ih.2 ht ih.1 hstep

end Step

end Progress

/-! ## Lines -/

namespace Library

variable {base lib : Library} {id : Nat} {themes : Theme → Prop} {theme : Theme} {root : Scope}
  {line : List Char} {state next : LineState} {tokens : TokenLine}

/-- **Each token of a line lies inside of a stack that can arise**, with scopes of a match and its
groups on top. Those stacks and the one at the end of the line have the same scope outermost as the
one at the start. -/
theorem topped_tokenizeLine (hs : base.Sound) (hq : base.Queried lib) (ht : themes theme)
    (h : state.stack.Rooted base id themes root)
    (hline : (lib.tokenizeLine id theme line state).1 = .ok (tokens, next)) :
    next.stack.Rooted base id themes root ∧
      tokens.Inside (Topped theme (ScopeStack.Rooted base id themes root)) := by
  obtain ⟨rules, hrules⟩ := rules_of_shaped hs hq h.shaped
  rw [tokenizeLine_fst hrules] at hline
  split at hline
  · obtain ⟨rfl, rfl⟩ := Prod.mk.inj (Except.ok.inj hline)
    refine ⟨h, fun t ht' => ?_⟩
    rw [List.mem_singleton.1 ht']
    exact .bare h
  · obtain ⟨p, hp, hfinish⟩ := bind_eq_ok_iff.1 hline
    obtain ⟨q, hmove, hnext⟩ := bind_eq_ok_iff.1 hfinish
    obtain ⟨rfl, rfl⟩ := Prod.mk.inj (Except.ok.inj hnext)
    obtain ⟨mid, hreached, -⟩ := Progress.run_ok (Prod.ext hp rfl)
    obtain ⟨hfounded, -⟩ := hreached.founded hs (.rules id hq) ht (Progress.founded_start h)
    exact ⟨(hfounded.moveTo hmove).rooted, (hfounded.moveTo hmove).line⟩

end Library

end ScopePaint
