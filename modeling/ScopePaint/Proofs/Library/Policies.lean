import ScopePaint.Proofs.Library.Pruning

/-!
# Includes of nothing under both policies

The same grammars are registered in two libraries, in one of which an include of nothing is an error
(`Library.strict`), while the other one only warns of it (`Library.lenient`). Walks do not look at
the policy, so both meet the same findings. What becomes of them is consistent
(`Library.Consistent`): the one library fails with the first include of nothing, the other never
fails and has the rules of the grammars without their includes of nothing; and where the first one
does not fail, both have the same rules. So one library forgives what the other one does not
(`Library.Forgives`), and asking both for whatever else keeps it so.
-/

set_option autoImplicit false

namespace ScopePaint

namespace Library

/-! ## Two policies -/

/-- The library of these grammars in which an include of nothing is an error. -/
def strict (limit : Nat) (gs : List Grammar) : Library :=
  ofGrammars { missing := .error, maxLineLength := limit } gs

/-- The library of these grammars in which an include of nothing is warned of. -/
def lenient (limit : Nat) (gs : List Grammar) : Library :=
  ofGrammars { missing := .warn, maxLineLength := limit } gs

section Options

variable {lib : Library} {options : LibraryOptions}

/-- Options do not change what a walk meets. -/
theorem expand_options (fuel : Nat) :
    { lib with options := options }.expand fuel = lib.expand fuel := by
  induction fuel with
  | zero => rfl
  | succ fuel ih =>
    funext visiting g ps
    rw [expand, expand, ih]
    rfl

/-- What a walk meets does not depend on what becomes of it. -/
theorem findings_options : { lib with options := options }.findings = lib.findings := by
  funext g ps
  unfold findings
  rw [expand_options]
  rfl

/-- Options do not change what is registered. -/
theorem ofGrammars_options (options' : LibraryOptions) (gs : List Grammar) :
    ofGrammars options' gs = { ofGrammars options gs with options := options' } := by
  induction gs using List.reverseRecOn with
  | nil => rfl
  | append_singleton gs g ih =>
    rw [ofGrammars_concat, ofGrammars_concat, register_fst, register_fst, ih]

end Options

section Policies

variable {limit : Nat} {gs : List Grammar}

/-- The lenient library has the grammars of the strict one. -/
theorem lenient_eq (limit : Nat) (gs : List Grammar) :
    lenient limit gs =
      { strict limit gs with options := { missing := .warn, maxLineLength := limit } } :=
  ofGrammars_options _ gs

/-- What does not look at the options is the same in both libraries. -/
theorem same_lenient {α : Type} (view : Library → α)
    (hview : ∀ (lib : Library) (options : LibraryOptions),
      view { lib with options := options } = view lib) :
    view (lenient limit gs) = view (strict limit gs) := by
  rw [lenient_eq]
  exact hview _ _

/-- The same findings are met in it. -/
theorem findings_lenient : (lenient limit gs).findings = (strict limit gs).findings :=
  same_lenient findings fun _ _ => findings_options

/-- It has the same grammars under the same numbers. -/
theorem grammar?_lenient : (lenient limit gs).grammar? = (strict limit gs).grammar? :=
  same_lenient grammar? fun _ _ => rfl

/-- The strict library is sound. -/
theorem sound_strict (limit : Nat) (gs : List Grammar) : (strict limit gs).Sound :=
  (built_ofGrammars _ gs).sound

/-- So is the lenient one. -/
theorem sound_lenient (limit : Nat) (gs : List Grammar) : (lenient limit gs).Sound :=
  (built_ofGrammars _ gs).sound

/-- The strict library has not been asked for rules. -/
theorem unasked_strict (limit : Nat) (gs : List Grammar) : (strict limit gs).Unasked :=
  unasked_ofGrammars _ gs

/-- Neither has the lenient one. -/
theorem unasked_lenient (limit : Nat) (gs : List Grammar) : (lenient limit gs).Unasked :=
  unasked_ofGrammars _ gs

end Policies

/-! ## Consistent answers -/

/-- The answers of a library in which an include of nothing is an error, of one that warns of it and
of one with pruned grammars, for patterns of the grammar `g`. -/
structure Consistent (lib : Library) (g : Grammar) (ps : List Pattern)
    (strict lenient pruned : Except Failure (List Rule)) : Prop where
  fails : ∀ failure, strict = .error failure ↔
    ∃ cause, failure = .grammar cause ∧ lib.FirstMissing [] g ps (some cause)
  finds : ∃ rules, lenient = .ok rules ∧ pruned = .ok (rules.map (Rule.prune lib)) ∧
    ∀ found, strict = .ok found → found = rules

/-- **Resolving is consistent.** -/
theorem consistent_resolve {a b c : Library} (hn : a.Named) (herror : a.options.missing = .error)
    (hwarn : b.options.missing = .warn) (hfindings : b.findings = a.findings) (hp : Pruned a c)
    {g : Grammar} (hg : a.Stands g) (ps : List Pattern) :
    Consistent a g ps (a.resolve g ps).1 (b.resolve g ps).1
      (c.resolve (g.prune a) (Pattern.pruneAll a g ps)).1 where
  fails := resolve_error_iff hn hg herror ps
  finds := by
    refine ⟨(a.findings g ps).filterMap Finding.rule?, ?_, hp.resolve g ps, fun found hfound => ?_⟩
    · simp only [resolve, hfindings, hwarn, Finding.rules]
      rfl
    · simp only [resolve, herror, Finding.rules] at hfound
      cases hmissing : (a.findings g ps).findSome? Finding.missing? with
      | some e =>
        rw [hmissing] at hfound
        exact absurd hfound (by simp [Except.mapError])
      | none =>
        rw [hmissing] at hfound
        exact (Except.ok.inj hfound).symm

section Answers

variable {limit : Nat} {gs : List Grammar}

/-- The library of the pruned grammars, under any policy. -/
def pruned (policy : MissingPolicy) (limit : Nat) (gs : List Grammar) : Library :=
  ofGrammars { missing := policy, maxLineLength := limit }
    (gs.map (Grammar.prune (strict limit gs)))

/-- The library of pruned grammars has not been asked for rules. -/
theorem unasked_pruned (policy : MissingPolicy) (limit : Nat) (gs : List Grammar) :
    (pruned policy limit gs).Unasked :=
  unasked_ofGrammars _ _

/-- The pruned library has the pruned grammars of the strict one. -/
theorem pruned_pruned (policy : MissingPolicy) (limit : Nat) (gs : List Grammar) :
    Pruned (strict limit gs) (pruned policy limit gs) :=
  pruned_ofGrammars _ _ gs

/-- The three libraries resolve patterns consistently. -/
theorem resolve_consistent (policy : MissingPolicy) {g : Grammar}
    (hg : (strict limit gs).Stands g) (ps : List Pattern) :
    Consistent (strict limit gs) g ps ((strict limit gs).resolve g ps).1
      ((lenient limit gs).resolve g ps).1
      ((pruned policy limit gs).resolve (g.prune (strict limit gs))
        (Pattern.pruneAll (strict limit gs) g ps)).1 := by
  have hnamed : (strict limit gs).Named := (built_ofGrammars _ gs).named
  have herror : (strict limit gs).options.missing = .error := by simp [strict]
  have hwarn : (lenient limit gs).options.missing = .warn := by simp [lenient]
  exact consistent_resolve hnamed herror hwarn findings_lenient (pruned_pruned policy limit gs) hg
    ps

/-- **The rules of a registered grammar are consistent.** -/
theorem rules_consistent (policy : MissingPolicy) {id : Nat} {g : Grammar}
    (hg : (strict limit gs).grammar? id = some g) (hr : (strict limit gs).isRegistered id = true) :
    Consistent (strict limit gs) g g.patterns ((strict limit gs).rules id).1
      ((lenient limit gs).rules id).1 ((pruned policy limit gs).rules id).1 := by
  have hpruned := pruned_pruned policy limit gs
  have hstands : (strict limit gs).Stands g := by
    obtain ⟨m, hm, rfl⟩ := Option.map_eq_some_iff.1 hg
    exact stands_of_isRegistered hm hr
  have hg' : (pruned policy limit gs).grammar? id = some (g.prune (strict limit gs)) := by
    rw [hpruned.grammars, hg, Option.map_some]
  have hr' : (lenient limit gs).isRegistered id = true := by
    rw [same_lenient isRegistered fun _ _ => rfl]
    exact hr
  rw [(unasked_strict limit gs).rules_fst hg hr,
    (unasked_lenient limit gs).rules_fst (grammar?_lenient ▸ hg) hr',
    (unasked_pruned policy limit gs).rules_fst hg' (hpruned.isRegistered id ▸ hr)]
  exact resolve_consistent policy hstands g.patterns

/-- **The rules of a region are consistent**, where the grammar that it names is there. -/
theorem nestedRules_consistent (policy : MissingPolicy) {r : Region} {g : Grammar}
    (hg : (strict limit gs).find? r.grammar.text = some g) (ps : List Pattern) :
    Consistent (strict limit gs) g ps ((strict limit gs).nestedRules r ps).1
      ((lenient limit gs).nestedRules r ps).1
      ((pruned policy limit gs).nestedRules r (Pattern.pruneAll (strict limit gs) g ps)).1 := by
  have hstands : (strict limit gs).Stands g := (built_ofGrammars _ gs).named.stands_of_find? hg
  have hg' : (pruned policy limit gs).find? r.grammar.text =
      some (g.prune (strict limit gs)) := by
    rw [(pruned_pruned policy limit gs).find?, hg, Option.map_some]
  have hlenient : (lenient limit gs).find? r.grammar.text = some g := by
    rw [same_lenient find? fun _ _ => rfl]
    exact hg
  rw [(unasked_strict limit gs).nestedRules_fst hg,
    (unasked_lenient limit gs).nestedRules_fst hlenient,
    (unasked_pruned policy limit gs).nestedRules_fst hg']
  exact resolve_consistent policy hstands ps

end Answers

/-! ## What is forgiven -/

/-- Libraries of the same grammars, of which one has all the rules that the other one has. -/
structure Forgives (a b : Library) : Prop where
  limit : b.options.maxLineLength = a.options.maxLineLength
  grammars : b.grammar? = a.grammar?
  regions : b.regions = a.regions
  regionCount : b.regionCount = a.regionCount
  rules : ∀ id rules, (a.rules id).1 = .ok rules → (b.rules id).1 = .ok rules
  nested : ∀ e ∈ a.regions, ∀ rules, (a.nestedRules e.1 e.2).1 = .ok rules →
    (b.nestedRules e.1 e.2).1 = .ok rules

/-- Answers that are consistent are forgiven. -/
theorem Consistent.forgiven {lib : Library} {g : Grammar} {ps : List Pattern}
    {strict lenient pruned : Except Failure (List Rule)}
    (h : Consistent lib g ps strict lenient pruned) {rules : List Rule} (hrules : strict = .ok rules) :
    lenient = .ok rules := by
  obtain ⟨found, hfound, -, hsame⟩ := h.finds
  rw [hfound, hsame rules hrules]

/-- Rules are found only for grammars that are registered. -/
theorem registered_of_rules {lib : Library} {id : Nat} {rules : List Rule}
    (h : (lib.rules id).1 = .ok rules) :
    ∃ g, lib.grammar? id = some g ∧ lib.isRegistered id = true := by
  rw [rules_fst] at h
  cases hm : lib.members[id]? with
  | none => rw [hm] at h; exact absurd h (by simp)
  | some m =>
    rw [hm] at h
    dsimp only at h
    refine ⟨m.grammar, by rw [grammar?, hm]; rfl, ?_⟩
    by_contra hnot
    rw [if_neg hnot] at h
    exact absurd h (by simp)

/-- **The library that warns forgives** what is an error in the other one. -/
theorem forgives_lenient (limit : Nat) (gs : List Grammar) :
    Forgives (strict limit gs) (lenient limit gs) where
  limit := by simp [strict, lenient]
  grammars := grammar?_lenient
  regions := same_lenient regions fun _ _ => rfl
  regionCount := same_lenient regionCount fun _ _ => rfl
  rules := by
    intro id rules h
    obtain ⟨g, hg, hr⟩ := registered_of_rules h
    exact (rules_consistent .warn hg hr).forgiven h
  nested := by
    intro e _ rules h
    cases hg : (strict limit gs).find? e.1.grammar.text with
    | some g => exact (nestedRules_consistent .warn hg e.2).forgiven h
    | none =>
      rw [nestedRules_fst, (unasked_strict limit gs).nested, hg] at h
      exact absurd h (by simp)

/-- Asking both libraries for rules keeps that. -/
theorem Forgives.queried {a b a' b' : Library} (h : Forgives a b) (ha : a.Sound) (hb : b.Sound)
    (hqa : a.Queried a') (hqb : b.Queried b') : Forgives a' b' where
  limit := by rw [← (hqa.agrees ha).options, ← (hqb.agrees hb).options, h.limit]
  grammars := by rw [← (hqa.agrees ha).grammar?_eq, ← (hqb.agrees hb).grammar?_eq, h.grammars]
  regions := by rw [← (hqa.agrees ha).regions_eq, ← (hqb.agrees hb).regions_eq, h.regions]
  regionCount := by
    rw [← (hqa.agrees ha).regionCount_eq, ← (hqb.agrees hb).regionCount_eq, h.regionCount]
  rules := by
    intro id rules hrules
    rw [← (hqb.agrees hb).rules]
    exact h.rules id rules (((hqa.agrees ha).rules id).trans hrules)
  nested := by
    intro e he rules hrules
    have he' : e ∈ a.regions := (hqa.agrees ha).regions_eq ▸ he
    rw [← (hqb.agrees hb).nested e (h.regions ▸ he')]
    exact h.nested e he' rules (((hqa.agrees ha).nested e he').trans hrules)

end Library

end ScopePaint
