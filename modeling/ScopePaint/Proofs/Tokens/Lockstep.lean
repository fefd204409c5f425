import ScopePaint.Proofs.Library.Renumbering
import ScopePaint.Proofs.Tokens.Alike

/-!
# Runs that keep step

Two places in the work on one line are alike if their scopes and tokens are and nothing else differs.
From places that are alike the same match is found, so two runs do the same thing in each step and
come to places that are alike again, or fail for the same reason (`Progress.step_alike`). They may be
under different themes, and with libraries that hold the same grammars under other numbers and have
been asked for different things before. So tokenizing a line from stacks that are alike has the same
outcome (`Library.tokenizeLine_alike`).
-/

set_option autoImplicit false

namespace ScopePaint

open Text (byteLength)

/-- Levels that began at the same place, with scopes that are alike. -/
structure Level.Alike (f : Nat → Nat) (R : Nat → Nat → Prop) (same : Prop) (a b : Level) : Prop where
  scope : Scope.Alike f R same a.scope b.scope
  openedAt : a.openedAt = b.openedAt

/-- Places in the work on a line that differ at most in the numbers and styles of scopes. -/
structure Progress.Alike (f : Nat → Nat) (R : Nat → Nat → Prop) (same : Prop) (p q : Progress) : Prop where
  pos : p.pos = q.pos
  levels : List.Forall₂ (Level.Alike f R same) p.levels q.levels
  emptyBegin : p.emptyBegin = q.emptyBegin
  line : p.line.Alike f R same q.line
  fresh : Fresh R p.number q.number

section Found

variable {f : Nat → Nat} {R : Nat → Nat → Prop} {same : Prop} {s t : ScopeStack}

/-- Stacks that are alike end their innermost regions alike. -/
theorem Found.innermostStop_alike (h : ScopeStack.Alike f R same s t) :
    (innermostRegion? s).bind (·.stop) = (innermostRegion? t).bind (·.stop) := by
  cases h with
  | nil => rfl
  | cons htop hbelow =>
    cases hbelow with
    | nil => exact htop.stop
    | cons hsecond _ =>
      unfold innermostRegion?
      dsimp only
      rw [htop.isContent]
      split
      · exact hsecond.stop
      · exact htop.stop

/-- The same thing to match, in a library where grammars have other numbers. -/
def Step.renumber (f : Nat → Nat) : Step → Step
  | .stop => .stop
  | .single rule => .single rule
  | .region r patterns => .region (r.renumber f) (Pattern.renumberAll f patterns)

/-- The same match, in a library where grammars have other numbers. -/
def Found.renumber (f : Nat → Nat) (found : Found) : Found :=
  { found with step := found.step.renumber f }

/-- A rule is found in the same way whatever the numbers of grammars. -/
theorem Found.ofRule?_renumber (line : List Char) (pos : Nat) (rule : Rule) :
    ofRule? line pos (rule.renumber f) =
      (ofRule? line pos rule).map (Option.map (Found.renumber f)) := by
  unfold ofRule?
  rw [Rule.regex_renumber]
  cases rule.regex.search line pos with
  | error e => rfl
  | ok hit? => cases hit? <;> cases rule <;> rfl

/-- The choice of the earliest match looks at ranges only. -/
theorem Found.earliest_renumber (candidates : List Found) :
    earliest (candidates.map (Found.renumber f)) = (earliest candidates).map (Found.renumber f) := by
  have hbetter : ∀ (best : Option Found) (found : Found),
      better (best.map (Found.renumber f)) (found.renumber f) =
        (better best found).map (Found.renumber f) := by
    intro best found
    cases best with
    | none => rfl
    | some b =>
      unfold better
      dsimp only [Option.map_some]
      rw [apply_ite (Option.map (Found.renumber f))]
      rfl
  have hfold : ∀ best : Option Found,
      (candidates.map (Found.renumber f)).foldl better (best.map (Found.renumber f)) =
        (candidates.foldl better best).map (Found.renumber f) := by
    induction candidates with
    | nil => exact fun best => rfl
    | cons found candidates ih =>
      intro best
      rw [List.map_cons, List.foldl_cons, List.foldl_cons, hbetter, ih]
  exact hfold none

/-- Of stacks that are alike the same rules count. -/
theorem Found.rulesAt_alike (line : List Char) (pos : Nat) (h : ScopeStack.Alike f R same s t) :
    rulesAt line pos t = (rulesAt line pos s).map (Rule.renumber f) := by
  unfold rulesAt
  split
  · cases h with
    | nil => rfl
    | cons htop _ => exact htop.rules
  · rfl

/-- The same matches are candidates for stacks that are alike. -/
theorem Found.candidates_alike (line : List Char) (pos : Nat)
    (h : ScopeStack.Alike f R same s t) :
    candidates line pos t = (candidates line pos s).map (List.map (Found.renumber f)) := by
  have hstop : ofStop? line pos t =
      (ofStop? line pos s).map (Option.map (Found.renumber f)) := by
    unfold ofStop?
    rw [innermostStop_alike h]
    cases (innermostRegion? t).bind (·.stop) with
    | none => rfl
    | some stop =>
      dsimp only
      cases stop.search line pos with
      | error e => rfl
      | ok hit? => cases hit? <;> rfl
  have hothers : (rulesAt line pos t).mapM (ofRule? line pos) =
      ((rulesAt line pos s).mapM (ofRule? line pos)).map
        (List.map (Option.map (Found.renumber f))) := by
    rw [rulesAt_alike line pos h, List.mapM_map, ← mapM_map_results]
    congr 1
    funext rule
    exact ofRule?_renumber line pos rule
  unfold candidates
  rw [hstop, hothers]
  cases ofStop? line pos s with
  | error e => rfl
  | ok stop =>
    cases (rulesAt line pos s).mapM (ofRule? line pos) with
    | error e => rfl
    | ok others =>
      refine congrArg Except.ok ?_
      rw [List.map_append, Option.toList_map, List.filterMap_map, List.map_filterMap]
      rfl

/-- **From stacks that are alike the same match is found.** -/
theorem Found.next?_alike (line : List Char) (pos : Nat) (h : ScopeStack.Alike f R same s t) :
    next? line pos t = (next? line pos s).map (Option.map (Found.renumber f)) := by
  unfold next?
  rw [candidates_alike line pos h]
  cases candidates line pos s with
  | error e => rfl
  | ok all => exact congrArg Except.ok (earliest_renumber all)

end Found

namespace Progress

section Alike

variable {f : Nat → Nat} {R : Nat → Nat → Prop} {same : Prop} {theme theme' : Theme} {line : List Char}
  {p q : Progress} {tokens tokens' : List Token} {hit : Match}

/-- The stacks of two places that are alike are alike. -/
theorem Alike.stack (h : p.Alike f R same q) : ScopeStack.Alike f R same p.stack q.stack :=
  List.rel_map (fun _ _ hab => hab.scope) h.levels

/-- So are the levels up to their regions. -/
theorem Alike.regionLevels (h : p.Alike f R same q) :
    List.Forall₂ (Level.Alike f R same) p.regionLevels q.regionLevels := by
  have hlevels := h.levels
  unfold Progress.regionLevels
  revert hlevels
  generalize p.levels = xs
  generalize q.levels = ys
  intro hlevels
  cases hlevels with
  | nil => exact .nil
  | cons htop hbelow =>
    dsimp only
    rw [htop.scope.isContent]
    split
    · exact hbelow
    · exact .cons htop hbelow

/-- The same groups of an end are named. -/
theorem Alike.stopCaptures (h : p.Alike f R same q) : p.stopCaptures = q.stopCaptures := by
  have hlevels := h.regionLevels
  unfold Progress.stopCaptures
  revert hlevels
  generalize p.regionLevels = xs
  generalize q.regionLevels = ys
  intro hlevels
  cases hlevels with
  | nil => rfl
  | cons htop _ =>
    dsimp only
    rw [htop.scope.openedBy, Option.map_map]
    rfl

/-- The same regions are begun again. -/
theorem Alike.reopens (hf : Function.Injective f) (h : p.Alike f R same q) (r : Region) :
    q.reopens (r.renumber f) = p.reopens r := by
  have hplace : ∀ opened : Region, ((opened.renumber f).place == (r.renumber f).place) =
      (opened.place == r.place) := by
    intro opened
    rw [Bool.eq_iff_iff, beq_iff_eq, beq_iff_eq, Region.place_renumber, Region.place_renumber,
      (RegionPlace.renumber_injective hf).eq_iff]
  have hlevels := h.levels
  unfold Progress.reopens
  rw [h.pos]
  revert hlevels
  generalize p.levels = xs
  generalize q.levels = ys
  intro hlevels
  induction hlevels with
  | nil => rfl
  | cons htop _ ih =>
    rw [List.any_cons, List.any_cons, ih, htop.openedAt, htop.scope.openedBy, Option.any_map]
    simp only [hplace]

/-- The same matches are repeated. -/
theorem Alike.repeats (hf : Function.Injective f) (h : p.Alike f R same q) (r : Region)
    (hit : Match) : q.repeats (r.renumber f) hit = p.repeats r hit := by
  unfold Progress.repeats
  rw [h.reopens hf, h.pos, h.emptyBegin, h.levels.length_eq]

/-- Starts with stacks that are alike are alike. -/
theorem Alike.start {a b : LineState} (h : ScopeStack.Alike f R same a.stack b.stack)
    (hfresh : Fresh R (ScopeStack.freshNumber a.stack) (ScopeStack.freshNumber b.stack)) :
    (start a).Alike f R same (start b) where
  pos := rfl
  levels := List.rel_map (fun _ _ hab => ⟨hab, rfl⟩) h
  emptyBegin := rfl
  line := TokenLine.Alike.empty
  fresh := hfresh

/-- Emitting tokens that are alike keeps places alike. -/
theorem emit_alike (hR : Relator.BiUnique R) (h : p.Alike f R same q)
    (ht : TokensAlike f R same tokens tokens') :
    SameOutcome (Progress.Alike f R same) (p.emit tokens) (q.emit tokens') := by
  have hmerged := TokenLine.mergeAll?_alike hR h.line ht
  unfold emit
  revert hmerged
  generalize p.line.mergeAll? tokens = x
  generalize q.line.mergeAll? tokens' = y
  intro hmerged
  cases hmerged with
  | none => exact .error _
  | some hline => exact .ok { h with line := hline }

/-- So does moving on. -/
theorem moveTo_alike (hR : Relator.BiUnique R) (h : p.Alike f R same q) (pos : Nat) :
    SameOutcome (Progress.Alike f R same) (p.moveTo pos) (q.moveTo pos) := by
  rw [moveTo_eq, moveTo_eq, h.pos]
  refine (emit_alike hR h (tokenOf_alike q.pos pos h.stack)).map fun a b hab => ?_
  exact { hab with pos := rfl }

/-- So does reading a character. -/
theorem consume_alike (hR : Relator.BiUnique R) (h : p.Alike f R same q) :
    SameOutcome (Option.Rel (Progress.Alike f R same)) (p.consume line) (q.consume line) := by
  unfold consume
  rw [h.pos]
  split
  · exact .ok .none
  · split
    · exact .error _
    · exact (moveTo_alike hR h _).bind fun a b hab => .ok (.some hab)

/-- So does the end of a region. -/
theorem endRegion_alike (hR : Relator.BiUnique R) (htheme : same → theme = theme')
    (h : p.Alike f R same q) :
    SameOutcome (Option.Rel (Progress.Alike f R same)) (p.endRegion theme line hit)
      (q.endRegion theme' line hit) := by
  unfold endRegion
  dsimp only
  rw [h.stopCaptures]
  have hscopes : ScopeStack.Alike f R same (p.regionLevels.map (·.scope))
      (q.regionLevels.map (·.scope)) := List.rel_map (fun _ _ hab => hab.scope) h.regionLevels
  refine (emit_alike hR h (captureTokens_alike htheme h.fresh hscopes _ hit _)).bind
    fun a b hab => .ok (.some ?_)
  exact
    { pos := rfl
      levels := List.forall₂_drop 1 h.regionLevels
      emptyBegin := hab.emptyBegin
      line := hab.line
      fresh := h.fresh.add _ }

/-- The stack for a single match is alike. -/
theorem singleStack_alike (htheme : same → theme = theme') (h : p.Alike f R same q)
    (rule : MatchRule) :
    ScopeStack.Alike f R same (p.singleStack theme rule) (q.singleStack theme' rule) := by
  unfold singleStack
  cases rule.scope with
  | none => exact h.stack
  | some name => exact .cons (Scope.inside_alike htheme h.fresh.rel h.stack _) h.stack

/-- A single match keeps places alike. -/
theorem applySingle_alike (hR : Relator.BiUnique R) (htheme : same → theme = theme')
    (h : p.Alike f R same q) (rule : MatchRule) :
    SameOutcome (Option.Rel (Progress.Alike f R same)) (p.applySingle theme line hit rule)
      (q.applySingle theme' line hit rule) := by
  unfold applySingle
  split
  · exact consume_alike hR h
  · have hstack := singleStack_alike htheme h rule
    refine (emit_alike hR h (captureTokens_alike htheme (h.fresh.add 1) hstack _ hit _)).bind
      fun a b hab => .ok (.some ?_)
    exact
      { pos := rfl
        levels := hab.levels
        emptyBegin := hab.emptyBegin
        line := hab.line
        fresh := (h.fresh.add 1).add _ }

/-- The scope of a region is alike under its new number. -/
theorem regionScope_alike (htheme : same → theme = theme') (h : p.Alike f R same q) (r : Region)
    (stop : Regex) (rules : List Rule) :
    Scope.Alike f R same (p.regionScope theme r stop rules)
      (q.regionScope theme' (r.renumber f) stop (rules.map (Rule.renumber f))) :=
  { Scope.inside_alike htheme h.fresh.rel h.stack r.scope with
    rules := rfl, stop := rfl, openedBy := rfl }

/-- So are the levels that a region opens. -/
theorem openedLevels_alike (htheme : same → theme = theme') (h : p.Alike f R same q) (r : Region)
    (stop : Regex) (rules : List Rule) :
    List.Forall₂ (Level.Alike f R same) (p.openedLevels theme hit r stop rules)
      (q.openedLevels theme' hit (r.renumber f) stop (rules.map (Rule.renumber f))) := by
  have hregion := regionScope_alike htheme h r stop rules
  have hcontent : (r.renumber f).content = r.content := rfl
  unfold openedLevels
  rw [hcontent]
  cases r.content with
  | none => exact .cons ⟨hregion, rfl⟩ h.levels
  | some name =>
    have hnumber := ((h.fresh.add 1).add r.startCaptures.length).rel
    have hinside := Scope.inside_alike htheme hnumber (.cons hregion h.stack) (some name)
    exact .cons ⟨{ hinside with rules := rfl, isContent := rfl }, rfl⟩
      (.cons ⟨hregion, rfl⟩ h.levels)

/-- The begin of a region keeps places alike. -/
theorem beginRegion_alike (hR : Relator.BiUnique R) (htheme : same → theme = theme')
    (h : p.Alike f R same q) (r : Region) (stop : Regex) (rules : List Rule) :
    SameOutcome (Option.Rel (Progress.Alike f R same)) (p.beginRegion theme line hit r stop rules)
      (q.beginRegion theme' line hit (r.renumber f) stop (rules.map (Rule.renumber f))) := by
  have hstack : ScopeStack.Alike f R same (p.regionScope theme r stop rules :: p.stack)
      (q.regionScope theme' (r.renumber f) stop (rules.map (Rule.renumber f)) :: q.stack) :=
    .cons (regionScope_alike htheme h r stop rules) h.stack
  unfold beginRegion
  dsimp only
  refine (emit_alike hR h (captureTokens_alike htheme (h.fresh.add 1) hstack _ hit _)).bind
    fun a b hab => .ok (.some ?_)
  exact
    { pos := rfl
      levels := openedLevels_alike htheme h r stop rules
      emptyBegin := by dsimp only; rw [h.pos, h.emptyBegin, h.levels.length_eq]
      line := hab.line
      fresh := ((h.fresh.add 1).add _).add 1 }

end Alike

/-! ## Steps and runs -/

section Step

variable {f : Nat → Nat} {R : Nat → Nat → Prop} {same : Prop} {base base' lib lib' : Library}
  {id id' : Nat} {theme theme' : Theme} {scope : ScopeName} {line : List Char} {p q : Progress}

/-- **From places that are alike a step has the same outcome.** -/
theorem step_alike (hb : base.AgreesUpTo f base') (hs : base.Sound) (hs' : base'.Sound)
    (hq : base.Queried lib) (hq' : base'.Queried lib') (hR : Relator.BiUnique R)
    (htheme : same → theme = theme') (hw : p.WellShaped base id fun _ => True)
    (h : p.Alike f R same q) :
    SameOutcome (Option.Rel (Progress.Alike f R same)) (p.step lib theme scope line).1
      (q.step lib' theme' scope line).1 := by
  have hsame : Found.next? line q.pos q.stack =
      (Found.next? line p.pos p.stack).map (Option.map (Found.renumber f)) := by
    rw [h.pos, Found.next?_alike line q.pos h.stack]
  unfold step
  rw [hsame]
  cases hnext : Found.next? line p.pos p.stack with
  | error e => exact .error _
  | ok result =>
    cases result with
    | none => exact .ok .none
    | some found =>
      obtain ⟨hit, step⟩ := found
      have hmove := moveTo_alike hR h hit.range.start
      dsimp only [Except.map, Option.map_some, Found.renumber]
      revert hmove
      generalize p.moveTo hit.range.start = x
      generalize q.moveTo hit.range.start = y
      intro hmove
      cases hmove with
      | error e => exact .error e
      | ok hm =>
        cases step with
        | stop => exact endRegion_alike hR htheme hm
        | single rule => exact applySingle_alike hR htheme hm rule
        | region r ps =>
          dsimp only [Step.renumber]
          rw [hm.repeats hb.injective]
          split
          · exact consume_alike hR hm
          · have hstop : (r.renumber f).stop = r.stop := rfl
            rw [hstop]
            cases r.stop.resolve line hit with
            | error cause => exact .error _
            | ok stop =>
              dsimp only
              -- The libraries may have been asked for different things, but their answers agree.
              have hr := hw.region_mem hs hnext rfl
              have hrules := (hb.queried hs hs' hq hq').nested (r, ps)
                ((hq.agrees hs).regions_eq ▸ hr)
              dsimp only at hrules
              revert hrules
              generalize lib.nestedRules r ps = answer
              generalize lib'.nestedRules (r.renumber f) (Pattern.renumberAll f ps) = answer'
              obtain ⟨result, lib₁⟩ := answer
              obtain ⟨result', lib₂⟩ := answer'
              intro hrules
              obtain rfl : result' = result.map fun rules => rules.map (Rule.renumber f) := hrules
              cases result with
              | error e => exact .error e
              | ok rules => exact beginRegion_alike hR htheme hm r stop rules

/-- **From places that are alike a run has the same outcome.** -/
theorem run_alike (hb : base.AgreesUpTo f base') (hs : base.Sound) (hs' : base'.Sound)
    (hlib : base.Queried lib) (hlib' : base'.Queried lib') (hR : Relator.BiUnique R)
    (htheme : same → theme = theme') (hw : p.WellShaped base id fun _ => True)
    (hw' : q.WellShaped base' id' fun _ => True) (h : p.Alike f R same q) (fuel : Nat) :
    SameOutcome (Progress.Alike f R same) (run theme scope line fuel lib p).1
      (run theme' scope line fuel lib' q).1 := by
  induction fuel generalizing lib lib' p q with
  | zero => exact .error _
  | succ fuel ih =>
    have hstep : SameOutcome (Option.Rel (Progress.Alike f R same))
        (p.step lib theme scope line).1 (q.step lib' theme' scope line).1 :=
      step_alike hb hs hs' hlib hlib' hR htheme hw h
    rw [run, run]
    cases hp : p.step lib theme scope line with
    | mk result lib₁ =>
      cases hq : q.step lib' theme' scope line with
      | mk result' lib₂ =>
        rw [hp, hq] at hstep
        cases hstep with
        | error e => exact .error e
        | ok hnext =>
          cases hnext with
          | none => exact .ok h
          | some halike =>
            obtain ⟨hw₁, hq₁⟩ := step_wellShaped hs hlib trivial hw hp
            obtain ⟨hw₂, hq₂⟩ := step_wellShaped hs' hlib' trivial hw' hq
            exact ih hq₁ hq₂ hw₁ hw₂ halike

/-- The rest of the line, and the stack at its end. -/
theorem finish_alike (hR : Relator.BiUnique R) (h : p.Alike f R same q) :
    SameOutcome (fun x y => x.1.Alike f R same y.1 ∧ ScopeStack.Alike f R same x.2.stack y.2.stack)
      (p.finish line) (q.finish line) :=
  (moveTo_alike hR h _).bind fun _ _ hab => .ok ⟨hab.line, hab.stack⟩

end Step

end Progress

namespace Library

variable {f : Nat → Nat} {R : Nat → Nat → Prop} {same : Prop} {base base' lib lib' : Library}
  {id : Nat} {theme theme' : Theme} {a b : LineState}

/-- **Tokenizing a line from stacks that are alike has the same outcome.** -/
theorem tokenizeLine_alike (hbase : base.AgreesUpTo f base') (hs : base.Sound) (hs' : base'.Sound)
    (hq : base.Queried lib) (hq' : base'.Queried lib') (hR : Relator.BiUnique R)
    (htheme : same → theme = theme') (ha : a.stack.Shaped base id fun _ => True)
    (hb : b.stack.Shaped base' (f id) fun _ => True)
    (h : ScopeStack.Alike f R same a.stack b.stack)
    (hfresh : Fresh R (ScopeStack.freshNumber a.stack) (ScopeStack.freshNumber b.stack))
    (line : List Char) :
    SameOutcome
      (fun x y => x.1.Alike f R same y.1 ∧ ScopeStack.Alike f R same x.2.stack y.2.stack)
      (lib.tokenizeLine id theme line a).1 (lib'.tokenizeLine (f id) theme' line b).1 := by
  obtain ⟨rules, hrules⟩ := rules_of_shaped hs hq ha
  obtain ⟨rules', hrules'⟩ := rules_of_shaped hs' hq' hb
  have hasked : base.Queried (lib.rules id).2 := .rules id hq
  have hasked' : base'.Queried (lib'.rules (f id)).2 := .rules (f id) hq'
  have hrenumbered := (hbase.queried hs hs' hasked hasked').toRenumbered
  rw [tokenizeLine_fst hrules, tokenizeLine_fst hrules', hrenumbered.options]
  split
  · exact .ok ⟨.cons ⟨rfl, h⟩ .nil, h⟩
  · have hname : (((lib'.rules (f id)).2.grammar? (f id)).map (·.scopeName)).getD ⟨""⟩ =
        (((lib.rules id).2.grammar? id).map (·.scopeName)).getD ⟨""⟩ := by
      rw [hrenumbered.grammars, Option.map_map]
      rfl
    unfold runLine stepLimit
    rw [hname, hrenumbered.regionCount, h.length_eq]
    refine SameOutcome.bind ?_ fun _ _ hpq => Progress.finish_alike hR hpq
    exact Progress.run_alike hbase hs hs' hasked hasked' hR htheme (Progress.wellShaped_start ha)
      (Progress.wellShaped_start hb) (Progress.Alike.start h hfresh) _

end Library

end ScopePaint
