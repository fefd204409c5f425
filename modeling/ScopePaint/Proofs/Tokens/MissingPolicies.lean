import ScopePaint.Proofs.Library.Policies
import ScopePaint.Proofs.Tokens.StackShape

/-!
# Lines under both policies

A step over a line asks the library at most for the rules of one region. A library that forgives
what another one does not gives the same rules where that one gives some, so a step that does not
fail with the other one does the same with it (`Progress.step_forgiven`), and so do a run and the
work on a whole line (`Library.Forgives.tokenizeLine`). States that the same successful calls lead to
in both are the same (`Library.ReachedAlike.eq`).
-/

set_option autoImplicit false

namespace ScopePaint

open Text (byteLength)

/-! ## Stacks -/

/-- A stack that can arise with a library can arise with one that forgives more. -/
theorem ScopeStack.Shaped.forgiven {a b : Library} (hf : a.Forgives b) {id : Nat}
    {themes : Theme → Prop} {stack : ScopeStack} (h : Shaped a id themes stack) :
    Shaped b id themes stack := by
  induction h with
  | root ht hg hrules => exact .root ht (hf.grammars ▸ hg) (hf.rules id _ hrules)
  | region _ ht hnumber hr hstop hrules ih =>
    exact .region ih ht hnumber (hf.regions ▸ hr) hstop (hf.nested _ hr _ hrules)
  | content _ ht hnumber hr hname ih => exact .content ih ht hnumber hr hname

namespace Progress

variable {base base' lib lib' : Library} {id : Nat} {themes : Theme → Prop} {theme : Theme}
  {scope : ScopeName} {line : List Char} {p : Progress}

/-- What is well shaped stays so in a library that forgives. -/
theorem WellShaped.forgiven (h : p.WellShaped base id themes) (hf : base.Forgives base') :
    p.WellShaped base' id themes :=
  ⟨h.shaped.forgiven hf, h.fresh⟩

/-! ## Steps and runs -/

/-- **A step that does not fail is the same where more is forgiven.** -/
theorem step_forgiven (hf : base.Forgives base') (hs : base.Sound) (hs' : base'.Sound)
    (hq : base.Queried lib) (hq' : base'.Queried lib') (hw : p.WellShaped base id themes)
    {outcome : Option Progress} (h : (p.step lib theme scope line).1 = .ok outcome) :
    (p.step lib' theme scope line).1 = .ok outcome := by
  unfold step at h ⊢
  cases hnext : Found.next? line p.pos p.stack with
  | error e => rw [hnext] at h; exact absurd h (by simp)
  | ok result =>
    cases result with
    | none =>
      rw [hnext] at h
      exact h
    | some found =>
      rw [hnext] at h
      dsimp only at h ⊢
      cases hmove : p.moveTo found.hit.range.start with
      | error e => rw [hmove] at h; exact absurd h (by simp)
      | ok m =>
        rw [hmove] at h
        dsimp only at h ⊢
        cases hstep : found.step with
        | stop => rw [hstep] at h; exact h
        | single rule => rw [hstep] at h; exact h
        | region r ps =>
          rw [hstep] at h
          dsimp only at h ⊢
          cases hrepeats : m.repeats r found.hit with
          | true => rw [hrepeats] at h; exact h
          | false =>
            rw [hrepeats] at h
            cases hstop : r.stop.resolve line found.hit with
            | error cause => rw [hstop] at h; exact absurd h (by simp)
            | ok stop =>
              rw [hstop] at h
              dsimp only at h ⊢
              -- This is where the libraries are asked. Only the one that forgives less may fail.
              have hr : (r, ps) ∈ lib.regions :=
                (hq.agrees hs).regions_eq ▸ hw.region_mem hs hnext hstep
              have hsame := (hf.queried hs hs' hq hq').nested (r, ps) hr
              cases hrules : lib.nestedRules r ps with
              | mk result next =>
                cases result with
                | error e => rw [hrules] at h; exact absurd h (by simp)
                | ok rules =>
                  rw [hrules] at h
                  have hrules' : (lib'.nestedRules r ps).1 = .ok rules :=
                    hsame rules (by rw [hrules])
                  cases hanswer : lib'.nestedRules r ps with
                  | mk result' next' =>
                    rw [hanswer] at hrules'
                    obtain rfl : result' = .ok rules := hrules'
                    exact h

/-- **A run that does not fail is the same where more is forgiven.** -/
theorem run_forgiven (hf : base.Forgives base') (hs : base.Sound) (hs' : base'.Sound)
    (hq : base.Queried lib) (hq' : base'.Queried lib') (ht : themes theme)
    (hw : p.WellShaped base id themes) {fuel : Nat} {q : Progress}
    (h : (run theme scope line fuel lib p).1 = .ok q) :
    (run theme scope line fuel lib' p).1 = .ok q := by
  induction fuel generalizing lib lib' p with
  | zero => exact absurd h (by simp [run])
  | succ fuel ih =>
    rw [run] at h ⊢
    cases hstep : p.step lib theme scope line with
    | mk outcome next =>
      rw [hstep] at h
      cases outcome with
      | error e => exact absurd h (by simp)
      | ok outcome =>
        have hsame : (p.step lib' theme scope line).1 = .ok outcome :=
          step_forgiven hf hs hs' hq hq' hw (by rw [hstep])
        have hasked : base'.Queried (p.step lib' theme scope line).2 :=
          queried_step hs' hq' (hw.forgiven hf)
        cases hstep' : p.step lib' theme scope line with
        | mk outcome' next' =>
          rw [hstep'] at hsame hasked
          obtain rfl : outcome' = .ok outcome := hsame
          cases outcome with
          | none => exact h
          | some q' =>
            obtain ⟨hw', hnext⟩ := step_wellShaped hs hq ht hw hstep
            exact ih hnext hasked hw' h

end Progress

/-! ## Lines -/

namespace Library

variable {a b a' b' : Library} {id : Nat} {theme : Theme} {line : List Char}

/-- **A document starts in the same state where more is forgiven.** -/
theorem Forgives.firstLineState (h : Forgives a b) {state : LineState}
    (hfirst : (a.firstLineState id theme).1 = .ok state) :
    (b.firstLineState id theme).1 = .ok state := by
  rw [firstLineState_fst] at hfirst ⊢
  obtain ⟨rules, hrules, hstate⟩ := bind_eq_ok_iff.1 hfirst
  rw [h.grammars]
  exact bind_eq_ok_iff.2 ⟨rules, h.rules id rules hrules, hstate⟩

/-- **A line that is cut into tokens is cut into the same tokens where more is forgiven**, whatever
both libraries were asked before. -/
theorem Forgives.tokenizeLine (h : Forgives a b) (ha : a.Sound) (hb : b.Sound)
    (hqa : a.Queried a') (hqb : b.Queried b') {themes : Theme → Prop} {state : LineState}
    (hshaped : state.stack.Shaped a id themes) {result : TokenLine × LineState}
    (hline : (a'.tokenizeLine id theme line state).1 = .ok result) :
    (b'.tokenizeLine id theme line state).1 = .ok result := by
  obtain ⟨rules, hrules⟩ := rules_of_shaped ha hqa hshaped
  have hrules' : (b'.rules id).1 = .ok rules := (h.queried ha hb hqa hqb).rules id rules hrules
  have hasked : a.Queried (a'.rules id).2 := .rules id hqa
  have hasked' : b.Queried (b'.rules id).2 := .rules id hqb
  have hf : Forgives (a'.rules id).2 (b'.rules id).2 := h.queried ha hb hasked hasked'
  rw [tokenizeLine_fst hrules] at hline
  rw [tokenizeLine_fst hrules', hf.limit]
  split at hline
  · rename_i hlong
    rw [if_pos hlong]
    exact hline
  · rename_i hshort
    obtain ⟨q, hrun, hfinish⟩ := bind_eq_ok_iff.1 hline
    have hshaped' : state.stack.Shaped a id fun _ => True := hshaped.mono fun _ _ => trivial
    rw [if_neg hshort]
    refine bind_eq_ok_iff.2 ⟨q, ?_, hfinish⟩
    unfold runLine stepLimit at hrun ⊢
    rw [hf.grammars, hf.regionCount]
    exact Progress.run_forgiven h ha hb hasked hasked' trivial (Progress.wellShaped_start hshaped')
      hrun

/-- States that the same successful calls lead to in two libraries, which may be asked for other
things in between. -/
inductive ReachedAlike (a b : Library) (id : Nat) : LineState → LineState → Prop
  | first {a' b' : Library} {theme : Theme} {s t : LineState} (ha : a.Queried a')
      (hb : b.Queried b') (hs : (a'.firstLineState id theme).1 = .ok s)
      (ht : (b'.firstLineState id theme).1 = .ok t) : ReachedAlike a b id s t
  | next {a' b' : Library} {theme : Theme} {line : List Char} {s t s' t' : LineState}
      {tokens tokens' : TokenLine} (h : ReachedAlike a b id s t) (ha : a.Queried a')
      (hb : b.Queried b') (hs : (a'.tokenizeLine id theme line s).1 = .ok (tokens, s'))
      (ht : (b'.tokenizeLine id theme line t).1 = .ok (tokens', t')) : ReachedAlike a b id s' t'

namespace ReachedAlike

variable {s t : LineState}

/-- The first of two states that are reached alike is reached. -/
theorem reaches (h : ReachedAlike a b id s t) : a.Reaches id (fun _ => True) s := by
  induction h with
  | first ha _ hs _ => exact .first ha trivial hs
  | next _ ha _ hs _ ih => exact .next ih ha trivial hs

/-- **The same successful calls lead to the same state.** -/
theorem eq (hf : Forgives a b) (ha : a.Sound) (hb : b.Sound) (h : ReachedAlike a b id s t) :
    s = t := by
  induction h with
  | first hqa hqb hs ht =>
    have hsame := (hf.queried ha hb hqa hqb).firstLineState hs
    exact Except.ok.inj (hsame.symm.trans ht)
  | next halike hqa hqb hs ht ih =>
    subst ih
    have hsame := hf.tokenizeLine ha hb hqa hqb (halike.reaches.shaped ha) hs
    exact (Prod.mk.inj (Except.ok.inj (hsame.symm.trans ht))).2

end ReachedAlike

/-- **The two policies for includes of nothing are consistent.** In whatever way libraries of the
same grammars were asked for rules before, of which one takes an include of nothing for an error and
the other one only warns of it: the rules of each registered grammar, and those inside of each
region, are not found in the first one exactly if going through the patterns meets an include of
nothing, and the error is the one that is met first; in the other one they are always found, and are
those of the grammars without their includes of nothing; and if they are found in the first one, they
are the same in both. A line from a state that the same successful calls lead to which the first one
cuts into tokens is cut into the same tokens by the other one, and leads to the same state. -/
theorem missing_policies_consistent (limit : Nat) (gs : List Grammar) {a b : Library}
    (ha : (strict limit gs).Queried a) (hb : (lenient limit gs).Queried b) :
    (∀ id g, (strict limit gs).grammar? id = some g → (strict limit gs).isRegistered id = true →
      ∀ policy, Consistent (strict limit gs) g g.patterns (a.rules id).1 (b.rules id).1
        ((pruned policy limit gs).rules id).1) ∧
    (∀ e ∈ (strict limit gs).regions, ∀ g,
      (strict limit gs).find? e.1.grammar.text = some g →
      ∀ policy, Consistent (strict limit gs) g e.2 (a.nestedRules e.1 e.2).1
        (b.nestedRules e.1 e.2).1
        ((pruned policy limit gs).nestedRules e.1
          (Pattern.pruneAll (strict limit gs) g e.2)).1) ∧
    ∀ id s t, ReachedAlike (strict limit gs) (lenient limit gs) id s t →
      ∀ theme line result, (a.tokenizeLine id theme line s).1 = .ok result →
        (b.tokenizeLine id theme line t).1 = .ok result := by
  have hs := sound_strict limit gs
  have hs' := sound_lenient limit gs
  have hf := forgives_lenient limit gs
  refine ⟨fun id g hg hr policy => ?_, fun e he g hg policy => ?_, ?_⟩
  · rw [← (ha.agrees hs).rules, ← (hb.agrees hs').rules]
    exact rules_consistent policy hg hr
  · rw [← (ha.agrees hs).nested e he, ← (hb.agrees hs').nested e (hf.regions ▸ he)]
    exact nestedRules_consistent policy hg e.2
  · intro id s t halike theme line result hline
    obtain rfl := halike.eq hf hs hs'
    exact hf.tokenizeLine hs hs' ha hb (halike.reaches.shaped hs) hline

/-! ## Two grammars with gaps -/

/-- A grammar file that includes a pattern that is not there. -/
def gapRecord : GrammarRecord where
  scopeName := "source.gap"
  patterns := [{ includeText := some "#nowhere" }]

/-- A grammar file that includes a grammar that is not there, but only inside of a region. -/
def innerGapRecord : GrammarRecord where
  scopeName := "source.inner"
  patterns := [
    { name := some "letter", matchSource := some "x" },
    { beginSource := some "<", endSource := some ">",
      patterns := some [{ includeText := some "source.nowhere" }] }]

/-- The one grammar. -/
def gapGrammar : Grammar := gapRecord.compile.toOption.getD { scopeName := ⟨""⟩ }

/-- The other one. -/
def innerGapGrammar : Grammar := innerGapRecord.compile.toOption.getD { scopeName := ⟨""⟩ }

/-- Where an include of nothing is an error, the one grammar cannot be used, and the other one can as
long as its region does not begin. Where it is warned of, both can be used, and a line without the
region is cut into the same tokens. -/
theorem missing_policies_consistent_gaps :
    let a := strict 20000 [gapGrammar, innerGapGrammar]
    let b := lenient 20000 [gapGrammar, innerGapGrammar]
    (a.rules 0).1 = .error (.grammar (.missingPattern "source.gap" "nowhere")) ∧
      (b.rules 0).1.isOk = true ∧
      (∃ e ∈ a.regions, (a.nestedRules e.1 e.2).1 =
          .error (.grammar (.missingGrammar "source.inner" "source.nowhere")) ∧
        (b.nestedRules e.1 e.2).1.isOk = true) ∧
      ∃ state result, ReachedAlike a b 1 state state ∧
        (a.tokenizeLine 1 Theme.builtin "x".toList state).1 = .ok result ∧
        (b.tokenizeLine 1 Theme.builtin "x".toList state).1 = .ok result := by
  intro a b
  have hnamed : a.Named := (built_ofGrammars _ _).named
  have hfirst : ∀ {g ps e}, a.Stands g → (a.findings g ps).findSome? Finding.missing? = some e →
      a.FirstMissing [] g ps (some e) :=
    fun hg h => h ▸ firstMissing_findings hnamed hg _
  obtain ⟨hrules, hnested, hlines⟩ :=
    missing_policies_consistent 20000 [gapGrammar, innerGapGrammar] (.refl a) (.refl b)
  refine ⟨?_, by decide +kernel, ?_, ?_⟩
  · have hgap : a.grammar? 0 = some (gapGrammar.place 0) := grammar?_ofGrammars _ _ 0
    have hregistered : a.isRegistered 0 = true := by decide +kernel
    have hstands : a.Stands (gapGrammar.place 0) := by
      obtain ⟨m, hm, hg⟩ := Option.map_eq_some_iff.1 hgap
      exact hg ▸ stands_of_isRegistered hm hregistered
    exact ((hrules 0 _ hgap hregistered .warn).fails _).2
      ⟨_, rfl, hfirst hstands (by decide +kernel)⟩
  · obtain ⟨e, he⟩ : ∃ e, a.regions = [e] := List.length_eq_one_iff.1 (by decide +kernel)
    have hmem : e ∈ a.regions := he ▸ List.mem_singleton_self e
    have hscopes : (a.regions.map fun e => e.1.grammar.text) = ["source.inner"] := by
      decide +kernel
    have hscope : e.1.grammar.text = "source.inner" := by
      rw [he] at hscopes
      exact (List.cons.inj hscopes).1
    have hmissing : (a.regions.map fun e =>
        (a.findings (innerGapGrammar.place 1) e.2).findSome? Finding.missing?) =
        [some (.missingGrammar "source.inner" "source.nowhere")] := by decide +kernel
    rw [he] at hmissing
    have hinner : a.find? e.1.grammar.text = some (innerGapGrammar.place 1) := by
      have hid : a.id? "source.inner" = some 1 := by decide +kernel
      rw [hscope, find?, hid]
      exact grammar?_ofGrammars _ _ 1
    have hconsistent := hnested e hmem _ hinner .warn
    refine ⟨e, hmem, (hconsistent.fails _).2 ⟨_, rfl, hfirst (hnamed.stands_of_find? hinner) ?_⟩, ?_⟩
    · exact (List.cons.inj hmissing).1
    · obtain ⟨rules, hok, -⟩ := hconsistent.finds
      rw [hok]
      rfl
  · obtain ⟨state, hstate⟩ : ∃ state, (a.firstLineState 1 Theme.builtin).1 = .ok state :=
      exists_of_isOk (by decide +kernel)
    have hline : ((a.firstLineState 1 Theme.builtin).1.bind fun state =>
        (a.tokenizeLine 1 Theme.builtin "x".toList state).1).isOk = true := by decide +kernel
    rw [hstate] at hline
    obtain ⟨result, hresult⟩ := exists_of_isOk hline
    have halike : ReachedAlike a b 1 state state :=
      .first (.refl a) (.refl b) hstate ((forgives_lenient _ _).firstLineState hstate)
    exact ⟨state, result, halike, hresult, hlines 1 _ _ halike _ _ _ hresult⟩

end Library

end ScopePaint
