import ScopePaint.Proofs.Library.Loaded
import ScopePaint.Proofs.Tokens.Steps
import ScopePaint.Theme.Default

/-!
# The stacks around a place

`ScopeStack.Shaped` says how the scopes around a place come about: the scope of the whole grammar is
outermost, and each of the others is that of a region of the library or the content of the region
right around it. A scope has the rules that the library gives for its grammar or region, the end
that its region was given when it began, and a number greater than those of all scopes around it.

Every state that tokenizing can lead to has such a stack (`Library.Reaches.shaped`), and so has
every place on the way (`Progress.Reached.wellShaped`). All the while the library is only asked for
what it knows (`Library.queried_tokenizeLine`). The themes that are in use on the way are kept
track of, because scopes keep the styles that they were opened with.
-/

set_option autoImplicit false

namespace ScopePaint

open Text (byteLength)

/-! ## Stacks -/

namespace ScopeStack

/-- The scopes from the innermost region outwards: a content scope on top does not count. -/
def regionPart : ScopeStack → ScopeStack
  | [] => []
  | top :: below => if top.isContent then below else top :: below

/-- The stacks that arise in the grammar with a number under some themes. -/
inductive Shaped (lib : Library) (id : Nat) (themes : Theme → Prop) : ScopeStack → Prop
  | root {theme : Theme} {g : Grammar} {rules : List Rule} (ht : themes theme)
      (hg : lib.grammar? id = some g) (hrules : (lib.rules id).1 = .ok rules) :
      Shaped lib id themes [{ Scope.inside theme 0 (some g.scopeName) [] with rules := rules }]
  | region {theme : Theme} {number : Nat} {r : Region} {ps : List Pattern} {stop : Regex}
      {rules : List Rule} {below : ScopeStack} (h : Shaped lib id themes below) (ht : themes theme)
      (hnumber : ∀ s ∈ below, s.number < number) (hr : (r, ps) ∈ lib.regions)
      (hstop : ∃ line hit, r.stop.resolve line hit = .ok stop)
      (hrules : (lib.nestedRules r ps).1 = .ok rules) :
      Shaped lib id themes
        ({ Scope.inside theme number r.scope below with
            rules := rules, stop := some stop, openedBy := some r } :: below)
  | content {theme : Theme} {number : Nat} {r : Region} {name : ScopeName} {top : Scope}
      {below : ScopeStack} (h : Shaped lib id themes (top :: below)) (ht : themes theme)
      (hnumber : ∀ s ∈ top :: below, s.number < number) (hr : top.openedBy = some r)
      (hname : r.content = some name) :
      Shaped lib id themes
        ({ Scope.inside theme number (some name) (top :: below) with
            rules := top.rules, isContent := true } :: top :: below)

namespace Shaped

variable {lib : Library} {id : Nat} {themes : Theme → Prop} {stack : ScopeStack}

/-- A stack that is shaped for some themes is so for more of them. -/
theorem mono (h : Shaped lib id themes stack) {themes' : Theme → Prop}
    (hthemes : ∀ theme, themes theme → themes' theme) : Shaped lib id themes' stack := by
  induction h with
  | root ht hg hrules => exact .root (hthemes _ ht) hg hrules
  | region _ ht hnumber hr hstop hrules ih => exact .region ih (hthemes _ ht) hnumber hr hstop hrules
  | content _ ht hnumber hr hname ih => exact .content ih (hthemes _ ht) hnumber hr hname

/-- A shaped stack is not empty. -/
theorem ne_nil (h : Shaped lib id themes stack) : stack ≠ [] := by
  cases h <;> exact List.cons_ne_nil _ _

/-- The grammar of a stack is registered, and its rules were found. -/
theorem exists_rules (h : Shaped lib id themes stack) :
    ∃ rules, (lib.rules id).1 = .ok rules := by
  induction h with
  | root _ _ hrules => exact ⟨_, hrules⟩
  | region _ _ _ _ _ _ ih => exact ih
  | content _ _ _ _ _ ih => exact ih

/-- **The rules of a scope are rules of the library.** -/
theorem knows (h : Shaped lib id themes stack) (hs : lib.Sound) :
    ∀ s ∈ stack, ∀ rule ∈ s.rules, lib.Knows rule := by
  induction h with
  | root _ _ hrules =>
    intro s hmem
    obtain rfl := List.mem_singleton.1 hmem
    exact hs.knows_of_rules hrules
  | region _ _ _ hr _ hrules ih =>
    intro s hmem
    rcases List.mem_cons.1 hmem with rfl | hmem
    · exact hs.knows_of_nestedRules hr hrules
    · exact ih s hmem
  | @content _ _ _ _ top _ _ _ _ _ _ ih =>
    intro s hmem
    rcases List.mem_cons.1 hmem with rfl | hmem
    · exact ih top List.mem_cons_self
    · exact ih s hmem

/-- The regions on a stack are regions of the library. -/
theorem opened_mem (h : Shaped lib id themes stack) :
    ∀ s ∈ stack, ∀ r, s.openedBy = some r → ∃ ps, (r, ps) ∈ lib.regions := by
  induction h with
  | root _ _ _ =>
    intro s hmem r hr
    obtain rfl := List.mem_singleton.1 hmem
    exact absurd hr (by simp [Scope.inside])
  | region _ _ _ hknown _ _ ih =>
    intro s hmem r hr
    rcases List.mem_cons.1 hmem with rfl | hmem
    · obtain rfl := Option.some.inj hr
      exact ⟨_, hknown⟩
    · exact ih s hmem r hr
  | content _ _ _ _ _ ih =>
    intro s hmem r hr
    rcases List.mem_cons.1 hmem with rfl | hmem
    · exact absurd hr (by simp [Scope.inside])
    · exact ih s hmem r hr

/-- The region right around a place, if there is an end to it, is surrounded by a stack of its
own. -/
theorem drop_regionPart (h : Shaped lib id themes stack) {stop : Regex}
    (hstop : (Found.innermostRegion? stack).bind (·.stop) = some stop) :
    Shaped lib id themes ((regionPart stack).drop 1) := by
  cases h with
  | root _ _ _ => exact absurd hstop (by simp [Found.innermostRegion?, Scope.inside])
  | region h _ _ _ _ _ => exact h
  | content h _ _ hr _ =>
    cases h with
    | root _ _ _ => exact absurd hr (by simp [Scope.inside])
    | region h _ _ _ _ _ => exact h
    | content _ _ _ _ _ => exact absurd hr (by simp [Scope.inside])

end Shaped

/-- What is below a region is on the stack. -/
theorem mem_of_mem_drop_regionPart {stack : ScopeStack} {s : Scope}
    (h : s ∈ (regionPart stack).drop 1) : s ∈ stack := by
  have hmem := List.mem_of_mem_drop h
  unfold regionPart at hmem
  split at hmem
  · exact hmem
  · split at hmem
    · exact List.mem_cons_of_mem _ hmem
    · exact hmem

/-- The next free number is above all numbers on the stack. -/
theorem foldl_max_le {stack : ScopeStack} {n : Nat} :
    n ≤ stack.foldl (fun n s => max n (s.number + 1)) n ∧
      ∀ s ∈ stack, s.number < stack.foldl (fun n s => max n (s.number + 1)) n := by
  induction stack generalizing n with
  | nil => simp
  | cons top below ih =>
    obtain ⟨hle, hbelow⟩ := @ih (max n (top.number + 1))
    rw [List.foldl_cons]
    refine ⟨by omega, fun s hs => ?_⟩
    rcases List.mem_cons.1 hs with rfl | hs
    · omega
    · exact hbelow s hs

/-- No scope of a stack has the number that is free. -/
theorem number_lt_freshNumber {stack : ScopeStack} : ∀ s ∈ stack, s.number < freshNumber stack :=
  foldl_max_le.2

end ScopeStack

/-! ## Stacks on the way through a line -/

namespace Progress

/-- The scopes of the levels up to a region are the stack up to it. -/
theorem map_scope_regionLevels (p : Progress) :
    p.regionLevels.map (·.scope) = ScopeStack.regionPart p.stack := by
  unfold regionLevels stack
  cases p.levels with
  | nil => rfl
  | cons top below =>
    rw [List.map_cons, ScopeStack.regionPart]
    dsimp only
    split <;> rfl

/-- A line starts with the stack of its state. -/
@[simp] theorem stack_start (state : LineState) : (start state).stack = state.stack := by
  simp [start, stack, Function.comp_def]

/-- The stack around the place is one that can arise, and the free number is greater than those of
its scopes. -/
structure WellShaped (lib : Library) (id : Nat) (themes : Theme → Prop) (p : Progress) : Prop where
  shaped : p.stack.Shaped lib id themes
  fresh : ∀ s ∈ p.stack, s.number < p.number

section Step

variable {base lib lib' : Library} {id : Nat} {themes : Theme → Prop} {theme : Theme}
  {scope : ScopeName} {line : List Char} {p q m : Progress} {hit : Match} {step : Step}

/-- Whatever moves on without opening or closing a scope keeps the stack. -/
theorem WellShaped.of_levels (h : p.WellShaped base id themes) (hlevels : q.levels = p.levels)
    (hnumber : p.number ≤ q.number) : q.WellShaped base id themes := by
  have hstack : q.stack = p.stack := by unfold stack; rw [hlevels]
  refine ⟨hstack ▸ h.shaped, fun s hs => ?_⟩
  have := h.fresh s (hstack ▸ hs)
  omega

/-- Reading a character keeps a place well shaped. -/
theorem Consumed.wellShaped (hq : Consumed line m q) (h : m.WellShaped base id themes) :
    q.WellShaped base id themes := by
  cases hq
  exact h.of_levels rfl (Nat.le_refl _)

/-- A region that begins puts scopes on the stack that can arise there. -/
theorem WellShaped.openedLevels (h : m.WellShaped base id themes) (ht : themes theme) {r : Region}
    {ps : List Pattern} {stop : Regex} {rules : List Rule} (hr : (r, ps) ∈ base.regions)
    (hstop : r.stop.resolve line hit = .ok stop) (hrules : (base.nestedRules r ps).1 = .ok rules)
    {q : Progress} (hq : q.levels = m.openedLevels theme hit r stop rules)
    (hnumber : q.number = m.number + 1 + r.startCaptures.length + 1) :
    q.WellShaped base id themes := by
  have hregion : ScopeStack.Shaped base id themes (m.regionScope theme r stop rules :: m.stack) :=
    .region h.shaped ht h.fresh hr ⟨line, hit, hstop⟩ hrules
  have hfresh : ∀ s ∈ m.regionScope theme r stop rules :: m.stack, s.number < m.number + 1 := by
    intro s hs
    rcases List.mem_cons.1 hs with rfl | hs
    · exact Nat.lt_succ_self _
    · have := h.fresh s hs
      omega
  unfold Progress.openedLevels at hq
  cases hname : r.content with
  | none =>
    rw [hname] at hq
    have hstack : q.stack = m.regionScope theme r stop rules :: m.stack := by
      unfold stack; rw [hq]; rfl
    refine ⟨hstack ▸ hregion, fun s hs => ?_⟩
    have := hfresh s (hstack ▸ hs)
    omega
  | some name =>
    rw [hname] at hq
    have hstack : q.stack =
        { Scope.inside theme (m.number + 1 + r.startCaptures.length) (some name)
            (m.regionScope theme r stop rules :: m.stack) with
          rules := rules, isContent := true } :: m.regionScope theme r stop rules :: m.stack := by
      unfold stack; rw [hq]; rfl
    refine ⟨?_, fun s hs => ?_⟩
    · rw [hstack]
      exact .content hregion ht (fun s hs => by have := hfresh s hs; omega) rfl hname
    · rw [hstack] at hs
      rcases List.mem_cons.1 hs with rfl | hs
      · simp only [Scope.inside]; omega
      · have := hfresh s hs
        omega

/-- **What a step does to the stack keeps it one that can arise**, and asks the library only for the
rules of one of its regions. -/
theorem Went.wellShaped (hwent : Went lib theme line m hit step q lib') (hs : base.Sound)
    (hq : base.Queried lib) (ht : themes theme) (h : m.WellShaped base id themes)
    (hended : step = .stop →
      ∃ stop, (Found.innermostRegion? m.stack).bind (·.stop) = some stop)
    (hknown : ∀ r ps, step = .region r ps → (r, ps) ∈ base.regions) :
    q.WellShaped base id themes ∧ base.Queried lib' := by
  cases hwent with
  | ended hl =>
    obtain ⟨stop, hstop⟩ := hended rfl
    have hstack : (m.regionLevels.drop 1).map (·.scope) =
        (ScopeStack.regionPart m.stack).drop 1 := by
      rw [List.map_drop, map_scope_regionLevels]
    refine ⟨⟨?_, fun s hmem => ?_⟩, hq⟩
    · show ScopeStack.Shaped base id themes ((m.regionLevels.drop 1).map (·.scope))
      rw [hstack]
      exact h.shaped.drop_regionPart hstop
    · replace hmem : s ∈ (m.regionLevels.drop 1).map (·.scope) := hmem
      rw [hstack] at hmem
      have := h.fresh s (ScopeStack.mem_of_mem_drop_regionPart hmem)
      dsimp only
      omega
  | matched hlt hl => exact ⟨h.of_levels rfl (by dsimp only; omega), hq⟩
  | skipped hempty hc => exact ⟨hc.wellShaped h, hq⟩
  | passed hrepeats hc => exact ⟨hc.wellShaped h, hq⟩
  | @begun r ps stop rules l hrepeats hstop hrules hl =>
    have hr := hknown r ps rfl
    have hanswer : (base.nestedRules r ps).1 = .ok rules :=
      ((hq.agrees hs).nested (r, ps) hr).trans hrules
    have hr' : (r, ps) ∈ lib.regions := (hq.agrees hs).regions_eq ▸ hr
    exact ⟨h.openedLevels ht hr hstop hanswer rfl rfl, .nestedRules hr' hq⟩

/-- The region of a match that is found is one of the library's. -/
theorem WellShaped.region_mem (h : p.WellShaped base id themes) (hs : base.Sound) {found : Found}
    (hnext : Found.next? line p.pos p.stack = .ok (some found)) {r : Region} {ps : List Pattern}
    (hstep : found.step = .region r ps) : (r, ps) ∈ base.regions := by
  obtain ⟨top, below, hstack, hmem⟩ := Found.rule_of_next? hnext hstep
  exact h.shaped.knows hs top (hstack ▸ List.mem_cons_self) _ hmem

/-- Moving on keeps the stack. -/
theorem WellShaped.moveTo (h : p.WellShaped base id themes) {pos : Nat}
    (hmove : p.moveTo pos = .ok m) : m.WellShaped base id themes := by
  obtain ⟨l, -, rfl⟩ := moveTo_ok hmove
  exact h.of_levels rfl (Nat.le_refl _)

/-- **A step keeps the stack one that can arise.** -/
theorem step_wellShaped (hs : base.Sound) (hq : base.Queried lib) (ht : themes theme)
    (h : p.WellShaped base id themes) (hstep : p.step lib theme scope line = (.ok (some q), lib')) :
    q.WellShaped base id themes ∧ base.Queried lib' := by
  obtain ⟨found, m, hnext, hmove, hwent⟩ := step_went hstep
  obtain ⟨l, -, hm⟩ := moveTo_ok hmove
  have hstack : m.stack = p.stack := by rw [hm]; rfl
  refine hwent.wellShaped hs hq ht (h.moveTo hmove) ?_ fun r ps => h.region_mem hs hnext
  rw [hstack]
  exact Found.stop_of_next? hnext

/-- A step asks the library at most for the rules of one of its regions, also where it fails. -/
theorem queried_step (hs : base.Sound) (hq : base.Queried lib) (h : p.WellShaped base id themes) :
    base.Queried (p.step lib theme scope line).2 := by
  unfold Progress.step
  cases hnext : Found.next? line p.pos p.stack with
  | error e => exact hq
  | ok result =>
    cases result with
    | none => exact hq
    | some found =>
      dsimp only
      cases p.moveTo found.hit.range.start with
      | error e => exact hq
      | ok m =>
        dsimp only
        cases hfound : found.step with
        | stop => exact hq
        | single rule => exact hq
        | region r ps =>
          dsimp only
          have hr : (r, ps) ∈ lib.regions :=
            (hq.agrees hs).regions_eq ▸ h.region_mem hs hnext hfound
          split
          · exact hq
          · cases r.stop.resolve line found.hit with
            | error cause => exact hq
            | ok stop =>
              have hasked : base.Queried (lib.nestedRules r ps).2 := .nestedRules hr hq
              dsimp only
              split <;> rename_i hrules <;> rw [hrules] at hasked <;> exact hasked

/-- What holds of the stack goes on holding through any number of steps. -/
theorem Reached.wellShaped (hr : Reached theme scope line lib p lib' q) (hs : base.Sound)
    (hq : base.Queried lib) (ht : themes theme) (h : p.WellShaped base id themes) :
    q.WellShaped base id themes ∧ base.Queried lib' := by
  induction hr with
  | refl => exact ⟨h, hq⟩
  | step _ hstep ih => exact step_wellShaped hs ih.2 ht ih.1 hstep

/-- Going over a line only asks the library for rules. -/
theorem queried_run (hs : base.Sound) (hq : base.Queried lib) (ht : themes theme)
    (h : p.WellShaped base id themes) (fuel : Nat) :
    base.Queried (run theme scope line fuel lib p).2 := by
  induction fuel generalizing lib p with
  | zero => exact hq
  | succ fuel ih =>
    have hasked : base.Queried (p.step lib theme scope line).2 := queried_step hs hq h
    rw [run]
    split
    · rename_i hstep; rw [hstep] at hasked; exact hasked
    · rename_i hstep; rw [hstep] at hasked; exact hasked
    · rename_i hstep
      obtain ⟨h', hq'⟩ := step_wellShaped hs hq ht h hstep
      exact ih hq' h'

/-- A line starts well shaped if its state is shaped. -/
theorem wellShaped_start {state : LineState} (h : state.stack.Shaped base id themes) :
    (start state).WellShaped base id themes :=
  ⟨by rw [stack_start]; exact h, by rw [stack_start]; exact ScopeStack.number_lt_freshNumber⟩

end Step

end Progress

/-! ## Lines -/

namespace Library

variable {base lib : Library} {id : Nat} {themes : Theme → Prop} {theme : Theme}
  {line : List Char} {state next : LineState} {tokens : TokenLine}

/-- The run over a line asks the library only for what it knows. -/
theorem queried_runLine (hs : base.Sound) (hq : base.Queried lib)
    (h : state.stack.Shaped base id themes) (line : List Char) :
    base.Queried (lib.runLine id theme line state).2 :=
  -- Which themes were in use does not matter here.
  Progress.queried_run hs hq trivial (Progress.wellShaped_start (h.mono fun _ _ => trivial)) _

/-- **Tokenizing a line asks the library only for what it knows.** -/
theorem queried_tokenizeLine (hs : base.Sound) (hq : base.Queried lib)
    (h : state.stack.Shaped base id themes) (line : List Char) :
    base.Queried (lib.tokenizeLine id theme line state).2 := by
  have hrules : base.Queried (lib.rules id).2 := .rules id hq
  unfold tokenizeLine
  split
  · rename_i heq; rw [heq] at hrules; exact hrules
  · rename_i rules lib' heq
    rw [heq] at hrules
    dsimp only
    split
    · split <;> exact hrules
    · have hrun : base.Queried (lib'.runLine id theme line state).2 :=
        queried_runLine hs hrules h line
      split
      · rename_i hres; rw [hres] at hrun; exact hrun
      · rename_i hres; rw [hres] at hrun; exact hrun

/-- The rules of the grammar of a stack are found, whatever the library was asked before. -/
theorem rules_of_shaped (hs : base.Sound) (hq : base.Queried lib)
    (h : state.stack.Shaped base id themes) : ∃ rules, (lib.rules id).1 = .ok rules := by
  obtain ⟨rules, hrules⟩ := h.exists_rules
  exact ⟨rules, ((hq.agrees hs).rules id).symm.trans hrules⟩

/-- **Where a line ends, the stack is one that can arise.** -/
theorem shaped_tokenizeLine (hs : base.Sound) (hq : base.Queried lib) (ht : themes theme)
    (h : state.stack.Shaped base id themes)
    (hline : (lib.tokenizeLine id theme line state).1 = .ok (tokens, next)) :
    next.stack.Shaped base id themes := by
  obtain ⟨rules, hrules⟩ := rules_of_shaped hs hq h
  rw [tokenizeLine_fst hrules] at hline
  split at hline
  · obtain ⟨-, rfl⟩ := Prod.mk.inj (Except.ok.inj hline)
    exact h
  · obtain ⟨p, hp, hfinish⟩ := bind_eq_ok_iff.1 hline
    obtain ⟨q, hmove, hnext⟩ := bind_eq_ok_iff.1 hfinish
    obtain ⟨-, rfl⟩ := Prod.mk.inj (Except.ok.inj hnext)
    obtain ⟨mid, hreached, -⟩ := Progress.run_ok (Prod.ext hp rfl)
    obtain ⟨hshaped, -⟩ := hreached.wellShaped hs (.rules id hq) ht (Progress.wellShaped_start h)
    exact (hshaped.moveTo hmove).shaped

/-- Making the state in front of the first line only asks the library for rules. -/
theorem queried_firstLineState (hq : base.Queried lib) :
    base.Queried (lib.firstLineState id theme).2 := by
  have hrules : base.Queried (lib.rules id).2 := .rules id hq
  unfold firstLineState
  split
  · rename_i heq; rw [heq] at hrules; exact hrules
  · rename_i heq
    rw [heq] at hrules
    split <;> exact hrules

/-- Documents start in the state that has the rules of their grammar. -/
theorem firstLineState_fst (lib : Library) (id : Nat) (theme : Theme) :
    (lib.firstLineState id theme).1 = (do
      let rules ← (lib.rules id).1
      match lib.grammar? id with
      | some g => .ok (.first theme g rules)
      | none => .error (.unregistered "")) := by
  have hsame : (lib.rules id).2.grammar? id = lib.grammar? id := by
    rw [(lib.rules_snd id).1.grammar?_eq]
  unfold firstLineState
  cases h : lib.rules id with
  | mk outcome lib' =>
    rw [h] at hsame
    cases outcome with
    | error e => rfl
    | ok rules =>
      dsimp only [bind, Except.bind] at hsame ⊢
      rw [← hsame]
      cases lib'.grammar? id <;> rfl

/-- Where documents start does not depend on what the library was asked before. -/
theorem firstLineState_agrees (hs : base.Sound) (hq : base.Queried lib) :
    (base.firstLineState id theme).1 = (lib.firstLineState id theme).1 := by
  rw [firstLineState_fst, firstLineState_fst, (hq.agrees hs).rules, (hq.agrees hs).grammar?_eq]

/-- Where a document starts, only the scope of its grammar is on the stack. -/
theorem shaped_firstLineState (hs : base.Sound) (hq : base.Queried lib) (ht : themes theme)
    (hfirst : (lib.firstLineState id theme).1 = .ok state) :
    state.stack.Shaped base id themes := by
  rw [← firstLineState_agrees hs hq, firstLineState_fst] at hfirst
  obtain ⟨rules, hrules, hfirst⟩ := bind_eq_ok_iff.1 hfirst
  cases hg : base.grammar? id with
  | none =>
    rw [hg] at hfirst
    exact absurd hfirst (by simp)
  | some g =>
    rw [hg] at hfirst
    obtain rfl := Except.ok.inj hfirst
    exact .root ht hg hrules

/-- The states that tokenizing lines of the grammar with a number leads to, under some themes. The
library may be asked for other things in between. -/
inductive Reaches (lib : Library) (id : Nat) (themes : Theme → Prop) : LineState → Prop
  | first {lib' : Library} {theme : Theme} {state : LineState} (hq : lib.Queried lib')
      (ht : themes theme) (h : (lib'.firstLineState id theme).1 = .ok state) :
      Reaches lib id themes state
  | next {lib' : Library} {theme : Theme} {line : List Char} {state next : LineState}
      {tokens : TokenLine} (hr : Reaches lib id themes state) (hq : lib.Queried lib')
      (ht : themes theme) (h : (lib'.tokenizeLine id theme line state).1 = .ok (tokens, next)) :
      Reaches lib id themes next

/-- **Every state that tokenizing leads to has a stack that can arise.** -/
theorem Reaches.shaped (h : base.Reaches id themes state) (hs : base.Sound) :
    state.stack.Shaped base id themes := by
  induction h with
  | first hq ht hfirst => exact shaped_firstLineState hs hq ht hfirst
  | next _ hq ht hline ih => exact shaped_tokenizeLine hs hq ht ih hline

/-- A state that is reached with some themes is reached with more of them. -/
theorem Reaches.mono (h : base.Reaches id themes state) {themes' : Theme → Prop}
    (hthemes : ∀ theme, themes theme → themes' theme) : base.Reaches id themes' state := by
  induction h with
  | first hq ht hfirst => exact .first hq (hthemes _ ht) hfirst
  | next _ hq ht hline ih => exact .next ih hq (hthemes _ ht) hline

/-- A library with the grammar in a file. -/
def ofRecord (r : GrammarRecord) : Library :=
  ((Library.empty {}).register (r.compile.toOption.getD { scopeName := ⟨""⟩ })).1

/-- Where a document in the grammar in a file starts. -/
def startOf (r : GrammarRecord) : LineState :=
  ((ofRecord r).firstLineState 0 Theme.builtin).1.toOption.getD ⟨[]⟩

/-- The start of a grammar is reached. -/
theorem reaches_startOf {r : GrammarRecord}
    (hok : ((ofRecord r).firstLineState 0 Theme.builtin).1.isOk = true) :
    (ofRecord r).Reaches 0 (fun _ => True) (startOf r) :=
  .first (.refl _) trivial (eq_ok_getD_of_isOk hok _)

/-- Where a document in the grammar of brackets starts. -/
def bracketStart (theme : Theme) : LineState :=
  (bracketLibrary.firstLineState 0 theme).1.toOption.getD ⟨[]⟩

/-- The start of the brackets is reached. -/
theorem reaches_bracketStart {theme : Theme}
    (hok : (bracketLibrary.firstLineState 0 theme).1.isOk = true) (ht : themes theme) :
    bracketLibrary.Reaches 0 themes (bracketStart theme) :=
  .first (.refl _) ht (eq_ok_getD_of_isOk hok _)

end Library

end ScopePaint
