import ScopePaint.Proofs.Regex.GivenUp
import ScopePaint.Proofs.Tokens.LeastCandidate
import ScopePaint.Proofs.Tokens.Termination

/-!
# A line is cut into tokens

While a line is being worked on, the tokens so far lead from its start to the place that was come to,
and that place lies between two characters (`Progress.Covering`). Each of the things that a step can
do appends a row that leads to the new place, so it cannot find tokens out of their row or a place
inside of a character. What is left to go wrong (`Progress.Fails`) are the grammars, where an end of a
region is no regular expression once captured text is put into it or an include of nothing is an
error, and the searches, which may be given up (`Progress.step_covers`). So tokenizing a line of a
loaded grammar gives tokens that tile the line (`TokenLine.Tiles`), says what is wrong with a grammar,
or breaks down because a search is given up. The last is so precisely if the work comes to a place
where it happens (`Library.tokenizeLine_tiles`), and short lines can lead there
(`Library.tokenizeLine_gives_up`).
-/

set_option autoImplicit false

namespace ScopePaint

open Text (IsBoundary byteLength)

namespace Progress

/-- The tokens so far lead to the place, which lies between two characters. -/
structure Covering (line : List Char) (p : Progress) : Prop where
  covers : p.line.Covers line p.pos
  boundary : IsBoundary line p.pos

/-- What can go wrong where the work on a line has come to: a grammar is wrong, or the search for one
of the candidates for the next match is given up. -/
inductive Fails (line : List Char) (p : Progress) : Failure → Prop
  | grammar (cause : GrammarError) : Fails line p (.grammar cause)
  | search {n : Nat} {r : Regex} {step : Step} {cause : Regex.SearchError}
      (hr : Found.Candidate line p.pos p.stack n r step)
      (hcause : r.search line p.pos = .error cause) : Fails line p (.search cause)

/-- Something that is done without failing and leads to where the tokens do. -/
def Fine (line : List Char) (result : Except Failure (Option Progress)) : Prop :=
  ∃ next, result = .ok next ∧ ∀ q, next = some q → q.Covering line

section Step

variable {base lib lib' : Library} {id : Nat} {theme : Theme} {scope : ScopeName}
  {line : List Char} {p q m : Progress} {hit : Match} {tokens : List Token} {pos : Nat}

/-- At the start of a line nothing has to be covered. -/
theorem Covering.start (line : List Char) (state : LineState) : (start state).Covering line :=
  ⟨TokenLine.Covers.empty line, Text.isBoundary_zero line⟩

/-- A row that begins at the place is appended. -/
theorem Covering.emit (h : p.Covering line) (hrow : IsRow line p.pos pos tokens) :
    ∃ l, p.emit tokens = .ok { p with line := l } ∧ l.Covers line pos := by
  obtain ⟨l, hl, hcovers⟩ := h.covers.mergeAll? hrow
  exact ⟨l, emit_ok_iff.2 ⟨l, hl, rfl⟩, hcovers⟩

/-- Moving on to a place between two characters succeeds. -/
theorem Covering.moveTo (h : p.Covering line) (hle : p.pos ≤ pos) (hpos : IsBoundary line pos) :
    ∃ l, p.moveTo pos = .ok { p with pos := pos, line := l } ∧
      ({ p with pos := pos, line := l } : Progress).Covering line := by
  obtain ⟨l, hemit, hcovers⟩ := h.emit (tokenOf_row hle hpos p.stack)
  refine ⟨l, ?_, hcovers, hpos⟩
  rw [moveTo_eq, hemit, Nat.max_eq_right hle]
  rfl

/-- Consuming a character succeeds, because one begins at the place. -/
theorem Covering.consume (h : p.Covering line) : Fine line (p.consume line) := by
  unfold Progress.consume
  split
  · exact ⟨none, rfl, fun q hq => absurd hq (by simp)⟩
  · rename_i hinside
    obtain ⟨before, c, after, hsplit, hbehind⟩ := h.boundary.exists_char (by omega)
    obtain ⟨l, hmove, hcovering⟩ := h.moveTo (Nat.le_add_right _ _) hbehind
    have hwidth : widthAt? line p.pos = some c.utf8Size := by rw [widthAt?, hsplit]
    rw [hwidth]
    dsimp only
    rw [hmove]
    exact ⟨_, rfl, fun q hq => Option.some.inj hq ▸ hcovering⟩

/-- Ending a region succeeds. -/
theorem Covering.endRegion (h : m.Covering line) (hfits : hit.Fits line m.pos)
    (hstart : hit.range.start = m.pos) : Fine line (m.endRegion theme line hit) := by
  have hrow := captureTokens_row theme hfits (m.regionLevels.map fun level => level.scope)
    m.stopCaptures m.number
  obtain ⟨l, hemit, hcovers⟩ := h.emit (hstart ▸ hrow)
  unfold Progress.endRegion
  dsimp only
  rw [hemit]
  exact ⟨_, rfl, fun q hq => Option.some.inj hq ▸ ⟨hcovers, hfits.stop⟩⟩

/-- Taking up the match of a rule succeeds. -/
theorem Covering.applySingle (h : m.Covering line) (hfits : hit.Fits line m.pos)
    (hstart : hit.range.start = m.pos) (rule : MatchRule) :
    Fine line (m.applySingle theme line hit rule) := by
  unfold Progress.applySingle
  split
  · exact h.consume
  · obtain ⟨l, hemit, hcovers⟩ := h.emit (hstart ▸ captureTokens_row theme hfits
      (m.singleStack theme rule) rule.captures (m.number + 1))
    dsimp only
    rw [hemit]
    exact ⟨_, rfl, fun q hq => Option.some.inj hq ▸ ⟨hcovers, hfits.stop⟩⟩

/-- Beginning a region succeeds. -/
theorem Covering.beginRegion (h : m.Covering line) (hfits : hit.Fits line m.pos)
    (hstart : hit.range.start = m.pos) (r : Region) (stop : Regex) (rules : List Rule) :
    Fine line (m.beginRegion theme line hit r stop rules) := by
  obtain ⟨l, hemit, hcovers⟩ := h.emit (hstart ▸ captureTokens_row theme hfits
    (m.regionScope theme r stop rules :: m.stack) r.startCaptures (m.number + 1))
  unfold Progress.beginRegion
  dsimp only
  rw [hemit]
  exact ⟨_, rfl, fun q hq => Option.some.inj hq ▸ ⟨hcovers, hfits.stop⟩⟩

/-- **A step leads to where its tokens do**, or finds a grammar to be wrong or a search to be given
up. -/
theorem step_covers (hs : base.Sound) (hl : base.Loaded) (hq : base.Queried lib)
    (hw : p.WellShaped base id fun _ => True) (h : p.Covering line) :
    Fine line (p.step lib theme scope line).1 ∨
      ∃ e, (p.step lib theme scope line).1 = .error e ∧ p.Fails line e := by
  unfold Progress.step
  cases hnext : Found.next? line p.pos p.stack with
  | error cause =>
    obtain ⟨n, r, step, hr, hcause⟩ :=
      Found.exists_candidate_of_error hw.shaped.wellFormed (map_eq_error_iff.1 hnext)
    exact Or.inr ⟨.search cause, rfl, .search hr hcause⟩
  | ok result =>
    cases result with
    | none => exact Or.inl ⟨none, rfl, fun q hq => absurd hq (by simp)⟩
    | some found =>
      have hfits := Found.fits_of_next? hnext
      obtain ⟨l, hmove, hm⟩ := h.moveTo hfits.after hfits.start
      -- The text before the match is taken up, so the match begins right here.
      have hhere : found.hit.Fits line found.hit.range.start :=
        { hfits with after := Nat.le_refl _ }
      dsimp only
      rw [hmove]
      dsimp only
      cases hstep : found.step with
      | stop => exact Or.inl (hm.endRegion hhere rfl)
      | single rule => exact Or.inl (hm.applySingle hhere rfl rule)
      | region r ps =>
        dsimp only
        split
        · exact Or.inl hm.consume
        · cases r.stop.resolve line found.hit with
          | error cause => exact Or.inr ⟨_, rfl, .grammar _⟩
          | ok stop =>
            dsimp only
            have hagrees := hq.agrees hs
            have hr : (r, ps) ∈ lib.regions := hagrees.regions_eq ▸ hw.region_mem hs hnext hstep
            split
            · rename_i e lib' hrules
              obtain ⟨cause, rfl⟩ := (hagrees.toSameGrammars.loaded hl).nestedRules_error
                (hq.sound hs) hr (congrArg Prod.fst hrules)
              exact Or.inr ⟨_, rfl, .grammar cause⟩
            · exact Or.inl (hm.beginRegion hhere rfl r stop _)

/-- What the tokens lead to goes on being the place through any number of steps. -/
theorem Reached.covering (hr : Reached theme scope line lib p lib' q) (hs : base.Sound)
    (hl : base.Loaded) (hq : base.Queried lib) (hw : p.WellShaped base id fun _ => True)
    (h : p.Covering line) : q.Covering line := by
  induction hr with
  | refl => exact h
  | step hreached hstep ih =>
    obtain ⟨hw', hq'⟩ := hreached.wellShaped hs hq trivial hw
    have hnext := congrArg Prod.fst hstep
    rcases step_covers hs hl hq' hw' ih with ⟨next, hfine, hcovering⟩ | ⟨e, herror, -⟩
    · exact hcovering _ (Except.ok.inj (hnext.symm.trans hfine)).symm
    · exact absurd (hnext.symm.trans herror) (by simp)

/-- A run gives tokens that lead to where it ends, or fails at some place that it comes to. -/
theorem run_covers (hs : base.Sound) (hl : base.Loaded) (hq : base.Queried lib)
    (hw : p.WellShaped base id fun _ => True) (h : p.Covering line) {fuel : Nat}
    (hfuel : (run theme scope line fuel lib p).1 ≠ .error .endless) :
    (∃ q, (run theme scope line fuel lib p).1 = .ok q ∧ q.Covering line ∧
      q.WellShaped base id fun _ => True) ∨
      ∃ e mid q, (run theme scope line fuel lib p).1 = .error e ∧
        Reached theme scope line lib p mid q ∧ q.Fails line e := by
  cases hrun : run theme scope line fuel lib p with
  | mk outcome lib' =>
    cases outcome with
    | ok q =>
      obtain ⟨mid, hreached, -⟩ := run_ok hrun
      exact Or.inl ⟨q, rfl, hreached.covering hs hl hq hw h,
        (hreached.wellShaped hs hq trivial hw).1⟩
    | error e =>
      rcases run_error hrun with rfl | ⟨mid, q, hreached, hstep⟩
      · rw [hrun] at hfuel
        exact absurd rfl hfuel
      · obtain ⟨hw', hq'⟩ := hreached.wellShaped hs hq trivial hw
        have herror := congrArg Prod.fst hstep
        rcases step_covers hs hl hq' hw' (hreached.covering hs hl hq hw h) with
          ⟨next, hfine, -⟩ | ⟨e', hfails, hcause⟩
        · exact absurd (herror.symm.trans hfine) (by simp)
        · obtain rfl := Except.error.inj (herror.symm.trans hfails)
          exact Or.inr ⟨e, mid, q, rfl, hreached, hcause⟩

/-- A run goes on as a shorter one from each place that it comes to, unless it was given too little
fuel. -/
theorem Reached.run_eq (hr : Reached theme scope line lib p lib' q) (fuel : Nat) :
    (run theme scope line fuel lib p).1 = .error .endless ∨
      ∃ fuel', run theme scope line fuel lib p = run theme scope line fuel' lib' q := by
  induction hr with
  | refl => exact Or.inr ⟨fuel, rfl⟩
  | step _ hstep ih =>
    rcases ih with hendless | ⟨fuel', hrun⟩
    · exact Or.inl hendless
    · cases fuel' with
      | zero => exact Or.inl (congrArg Prod.fst hrun)
      | succ fuel' =>
        refine Or.inr ⟨fuel', ?_⟩
        rw [hrun, run, hstep]

/-- A run that comes to a place where a step fails ends there. -/
theorem Reached.run_error (hr : Reached theme scope line lib p lib' q) {e : Failure}
    (hstep : (q.step lib' theme scope line).1 = .error e) {fuel : Nat}
    (hfuel : (run theme scope line fuel lib p).1 ≠ .error .endless) :
    (run theme scope line fuel lib p).1 = .error e := by
  rcases hr.run_eq fuel with hendless | ⟨fuel', hrun⟩
  · exact absurd hendless hfuel
  · rw [hrun] at hfuel ⊢
    cases fuel' with
    | zero => exact absurd rfl hfuel
    | succ fuel' =>
      rw [run]
      cases hresult : q.step lib' theme scope line with
      | mk result lib'' =>
        obtain rfl : result = .error e := by
          rw [hresult] at hstep
          exact hstep
        rfl

/-- **The whole line is tokens in the end.** -/
theorem Covering.finish (h : q.Covering line) :
    ∃ tokens, q.finish line = .ok (tokens, ⟨q.stack⟩) ∧
      tokens.Covers line (byteLength line) := by
  obtain ⟨l, hmove, hcovering⟩ := h.moveTo h.boundary.le (Text.isBoundary_byteLength line)
  refine ⟨l, ?_, hcovering.covers⟩
  unfold Progress.finish
  rw [hmove]
  rfl

end Step

end Progress

namespace Library

/-- The work on a line comes to a place. -/
def ComesTo (lib : Library) (id : Nat) (theme : Theme) (line : List Char) (state : LineState)
    (p : Progress) : Prop :=
  ∃ mid, Progress.Reached theme (((lib.grammar? id).map (·.scopeName)).getD ⟨""⟩) line lib
    (.start state) mid p

/-- The tokens of a line lead from its start to its end, or the work fails where it has come to. -/
theorem tokenizeLine_covers {lib lib' : Library} (hb : lib.Built) (hl : lib.Loaded) {id : Nat}
    {state : LineState} (hr : lib.Reaches id (fun _ => True) state) (hq : lib.Queried lib')
    (theme : Theme) (line : List Char) :
    match (lib'.tokenizeLine id theme line state).1 with
    | .ok (tokens, next) => tokens.Covers line (byteLength line) ∧ next.stack ≠ []
    | .error e => ∃ p, (lib'.rules id).2.ComesTo id theme line state p ∧ p.Fails line e := by
  have hs := hb.sound
  have hshaped := hr.shaped hs
  have hasked : lib.Queried (lib'.rules id).2 := .rules id hq
  obtain ⟨rules, hrules⟩ := rules_of_shaped hs hq hshaped
  rw [tokenizeLine_fst hrules]
  by_cases hlong : (lib'.rules id).2.options.maxLineLength < byteLength line
  · -- A line that is too long is a single token.
    rw [if_pos hlong]
    have hone : IsRow line 0 (byteLength line) [⟨⟨0, byteLength line⟩, state.stack⟩] :=
      isRow_singleton.2 ⟨rfl, by omega, Text.isBoundary_byteLength line, rfl⟩
    exact ⟨⟨hone, List.IsChain.singleton _⟩, hshaped.ne_nil⟩
  · rw [if_neg hlong]
    have hends := runLine_ne_endless hs hasked theme line hshaped
    rcases Progress.run_covers hs hl hasked (Progress.wellShaped_start hshaped)
      (Progress.Covering.start line state) hends with
      ⟨q, hq, hcovering, hq'⟩ | ⟨e, mid, q, he, hreached, hfails⟩
    · obtain ⟨tokens, hfinish, hcovers⟩ := hcovering.finish
      rw [runLine, hq]
      show match q.finish line with
        | .ok (tokens, next) => tokens.Covers line (byteLength line) ∧ next.stack ≠ []
        | .error e => ∃ p, (lib'.rules id).2.ComesTo id theme line state p ∧ p.Fails line e
      rw [hfinish]
      exact ⟨hcovers, hq'.shaped.ne_nil⟩
    · rw [runLine, he]
      exact ⟨q, ⟨mid, hreached⟩, hfails⟩

/-- **Where a search is given up, tokenizing breaks down**: the work on a line that is not too long
ends at the first place that it comes to where the search for a candidate is given up. -/
theorem tokenizeLine_of_given_up {lib lib' : Library} (hb : lib.Built) {id : Nat}
    {state : LineState} (hr : lib.Reaches id (fun _ => True) state) (hq : lib.Queried lib')
    (theme : Theme) {line : List Char} (hshort : byteLength line ≤ lib'.options.maxLineLength)
    {p : Progress} (hp : (lib'.rules id).2.ComesTo id theme line state p) {n : Nat} {r : Regex}
    {step : Step} (hcandidate : Found.Candidate line p.pos p.stack n r step)
    {cause : Regex.SearchError} (hcause : r.search line p.pos = .error cause) :
    ∃ first, (lib'.tokenizeLine id theme line state).1 = .error (.search first) := by
  have hs := hb.sound
  have hshaped := hr.shaped hs
  have hasked : lib.Queried (lib'.rules id).2 := .rules id hq
  obtain ⟨rules, hrules⟩ := rules_of_shaped hs hq hshaped
  obtain ⟨mid, hreached⟩ := hp
  obtain ⟨hw, -⟩ := hreached.wellShaped hs hasked trivial (Progress.wellShaped_start hshaped)
  have hoptions : (lib'.rules id).2.options = lib'.options := (lib'.rules_snd id).1.options.symm
  cases hnext : Found.next? line p.pos p.stack with
  | ok result =>
    obtain ⟨hit?, hhit⟩ := hcandidate.search_of_next? hw.shaped.wellFormed hnext
    exact absurd (hcause.symm.trans hhit) (by simp)
  | error first =>
    refine ⟨first, ?_⟩
    have hstep : (p.step mid theme (((((lib'.rules id).2.grammar? id).map
        (·.scopeName)).getD ⟨""⟩)) line).1 = .error (.search first) := by
      rw [Progress.step, hnext]
    have hrun := hreached.run_error hstep (runLine_ne_endless hs hasked theme line hshaped)
    rw [tokenizeLine_fst hrules, hoptions, if_neg (Nat.not_lt.2 hshort), runLine, hrun]
    rfl

/-- **Tokens tile the line, and tokenizing breaks down only where a search does.** In a library of
loaded grammars, from every state that tokenizing leads to, under any theme, the tokens of a line are
not empty, lie between characters, lead from its start to its end without gaps and never have the same
scopes as their neighbours; and some scope goes on to the next line. What can go wrong is a grammar,
or a search for one of the candidates at a place that the work comes to, which is given up: no token
is out of the row, no character is cut, no region's grammar is missing, and the work ends. In a line
that is not too long, a search for a candidate that is given up does break tokenizing down. -/
theorem tokenizeLine_tiles {lib lib' : Library} (hb : lib.Built) (hl : lib.Loaded) {id : Nat}
    {state : LineState} (hr : lib.Reaches id (fun _ => True) state) (hq : lib.Queried lib')
    (theme : Theme) (line : List Char) :
    (match (lib'.tokenizeLine id theme line state).1 with
      | .ok (tokens, next) => tokens.Tiles line ∧ next.stack ≠ []
      | .error e => ∃ p, (lib'.rules id).2.ComesTo id theme line state p ∧ p.Fails line e) ∧
    (byteLength line ≤ lib'.options.maxLineLength →
      ∀ p, (lib'.rules id).2.ComesTo id theme line state p →
        ∀ n r step cause, Found.Candidate line p.pos p.stack n r step →
          r.search line p.pos = .error cause →
            ∃ first, (lib'.tokenizeLine id theme line state).1 = .error (.search first)) := by
  constructor
  · have hcovers := tokenizeLine_covers hb hl hr hq theme line
    cases h : (lib'.tokenizeLine id theme line state).1 with
    | ok result =>
      rw [h] at hcovers
      exact ⟨hcovers.1.tiles, hcovers.2⟩
    | error e =>
      rw [h] at hcovers
      exact hcovers
  · intro hshort p hp n r step cause hcandidate hcause
    exact tokenizeLine_of_given_up hb hr hq theme hshort hp hcandidate hcause

/-- A line of brackets, some of which are left open. -/
theorem tokenizeLine_tiles_brackets :
    match (bracketLibrary.tokenizeLine 0 Theme.builtin "[[a]".toList
      (bracketStart Theme.builtin)).1 with
    | .ok (tokens, next) => tokens.Tiles "[[a]".toList ∧ next.stack ≠ []
    | .error e => ∃ p, (bracketLibrary.rules 0).2.ComesTo 0 Theme.builtin "[[a]".toList
        (bracketStart Theme.builtin) p ∧ p.Fails "[[a]".toList e :=
  (tokenizeLine_tiles built_bracketLibrary loaded_bracketLibrary
    (reaches_bracketStart (by decide +kernel) trivial) (.refl _) Theme.builtin "[[a]".toList).1

/-- A grammar file with one rule: any number of `x`, each of which is met in two ways, and a `y`. -/
def doublingRecord : GrammarRecord where
  scopeName := "source.test"
  patterns := [{ name := some "keyword", matchSource := some "(?:x|x)*y" }]

/-- Forty times `x`, a `z`, and only then a `y`. -/
def doublingLine : List Char := List.replicate 40 'x' ++ "zy".toList

/-- At the start of a document, the innermost scope of that grammar has the one rule and no end. -/
theorem rules_startOf_doublingRecord :
    (startOf doublingRecord).stack.map (fun s => (s.isContent, s.stop.isNone,
      s.rules.map fun r => r.regex.program.root)) = [(false, true, [Regex.doubling])] := by
  decide +kernel

/-- **Tokenizing breaks down on a short line** of a loaded grammar, at the very start of a document:
the search for the only rule is given up. -/
theorem tokenizeLine_gives_up :
    (ofRecord doublingRecord).Built ∧ (ofRecord doublingRecord).Loaded ∧
      (ofRecord doublingRecord).Reaches 0 (fun _ => True) (startOf doublingRecord) ∧
      byteLength doublingLine = 42 ∧
      ∃ cause, ((ofRecord doublingRecord).tokenizeLine 0 Theme.builtin doublingLine
        (startOf doublingRecord)).1 = .error (.search cause) := by
  have hbuilt : (ofRecord doublingRecord).Built := .register _ (.empty _)
  have hloaded : (ofRecord doublingRecord).Loaded :=
    (Library.Loaded.empty {}).register (GrammarRecord.compile_of_isOk (by decide +kernel))
  have hstart : (ofRecord doublingRecord).Reaches 0 (fun _ => True) (startOf doublingRecord) :=
    reaches_startOf (by decide +kernel)
  have hlength : byteLength doublingLine = 42 := by decide +kernel
  refine ⟨hbuilt, hloaded, hstart, hlength, ?_⟩
  obtain ⟨top, below, hstack, htop, hbelow⟩ := List.map_eq_cons_iff.1 rules_startOf_doublingRecord
  obtain ⟨rule, more, hrules, hrule, -⟩ :=
    List.map_eq_cons_iff.1 (Prod.mk.inj (Prod.mk.inj htop).2).2
  have hsearch : rule.regex.search doublingLine 0 = .error .retryLimit :=
    Regex.search_doubling hrule (by decide) (by decide) (by decide) (by decide) _
  have hinside : 0 < byteLength doublingLine := by omega
  have hcandidate : ∃ n step,
      Found.Candidate doublingLine 0 (startOf doublingRecord).stack n rule.regex step := by
    have hfirst : top.rules[0]? = some rule := by rw [hrules]; rfl
    rw [hstack]
    cases rule with
    | single rule => exact ⟨1, _, .single hinside hfirst⟩
    | region region patterns => exact ⟨1, _, .region hinside hfirst⟩
  have hplace : (Progress.start (startOf doublingRecord)).stack = (startOf doublingRecord).stack := by
    simp [Progress.start, Progress.stack, Function.comp_def]
  rw [← hplace] at hcandidate
  obtain ⟨n, step, hcandidate⟩ := hcandidate
  exact tokenizeLine_of_given_up hbuilt hstart (.refl _) Theme.builtin (by rw [hlength]; decide)
    ⟨_, .refl⟩ hcandidate hsearch

end Library

end ScopePaint
