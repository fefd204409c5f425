import ScopePaint.Proofs.Outcome
import ScopePaint.Proofs.Tokens.CaptureRow
import ScopePaint.Tokens.Tokenizer

/-!
# What a step can do

A step of the tokenizer looks for the next match, moves to where it begins, and does one of five
things (`Progress.Went`): it ends a region, takes up a match, begins a region, or consumes a single
character in place of an empty match or of a begin that would lead nowhere. `Progress.step_went`
says all of this once, together with what each case found out before, so what holds of all steps is
shown by these five cases. `Progress.Reached` is any number of steps, and a run ends where the last
one led (`Progress.run_ok`).
-/

set_option autoImplicit false

namespace ScopePaint

open Text (IsBoundary byteLength)

/-! ## Where a match comes from -/

namespace Found

variable {line : List Char} {pos : Nat} {stack : ScopeStack} {found : Found}

/-- A match that is the better one of many is one of them, or the one to begin with. -/
theorem mem_or_eq_of_foldl_better {candidates : List Found} {best : Option Found}
    (h : candidates.foldl better best = some found) : found ∈ candidates ∨ best = some found := by
  induction candidates generalizing best with
  | nil => exact Or.inr h
  | cons f candidates ih =>
    rcases ih h with hmem | hbest
    · exact Or.inl (List.mem_cons_of_mem f hmem)
    · unfold better at hbest
      split at hbest
      · exact Or.inl (Option.some.inj hbest ▸ List.mem_cons_self)
      · split at hbest
        · exact Or.inr hbest
        · exact Or.inl (Option.some.inj hbest ▸ List.mem_cons_self)

/-- The rules that count are those of the innermost scope, in front of the end of the line. -/
theorem mem_rulesAt {rule : Rule} (h : rule ∈ rulesAt line pos stack) :
    pos < byteLength line ∧ ∃ top below, stack = top :: below ∧ rule ∈ top.rules := by
  unfold rulesAt at h
  split at h
  · rename_i hinside
    cases stack with
    | nil => exact absurd h List.not_mem_nil
    | cons top below => exact ⟨hinside, top, below, rfl, h⟩
  · exact absurd h List.not_mem_nil

/-- The candidates are known once no search is given up. -/
theorem candidates_eq_ok_iff {all : List Found} : candidates line pos stack = .ok all ↔
    ∃ (stop : Option Found) (others : List (Option Found)), ofStop? line pos stack = .ok stop ∧
      (rulesAt line pos stack).map (ofRule? line pos) = others.map .ok ∧
      stop.toList ++ others.filterMap id = all := by
  unfold candidates
  simp only [bind_eq_ok_iff, mapM_eq_ok_iff, pure, Except.pure, Except.ok.injEq, exists_and_left]

/-- A candidate is a match of the region's end or of a rule that counts. -/
theorem mem_candidates_iff {all : List Found} (h : candidates line pos stack = .ok all) :
    found ∈ all ↔ ofStop? line pos stack = .ok (some found) ∨
      ∃ rule ∈ rulesAt line pos stack, ofRule? line pos rule = .ok (some found) := by
  obtain ⟨stop, others, hstop, hothers, rfl⟩ := candidates_eq_ok_iff.1 h
  have hrules : some found ∈ others ↔
      ∃ rule ∈ rulesAt line pos stack, ofRule? line pos rule = .ok (some found) := by
    rw [← List.mem_map, hothers, List.mem_map_of_injective fun _ _ => Except.ok.inj]
  rw [List.mem_append, Option.mem_toList, List.mem_filterMap, hstop, Except.ok.injEq, ← hrules]
  simp only [id_eq, exists_eq_right]

/-- **A match is one of the candidates**: of the end of the innermost region or, in front of the
end of the line, of a rule of the innermost scope. -/
theorem of_next? (h : next? line pos stack = .ok (some found)) :
    ofStop? line pos stack = .ok (some found) ∨
      ∃ top below rule, stack = top :: below ∧ rule ∈ top.rules ∧ pos < byteLength line ∧
        ofRule? line pos rule = .ok (some found) := by
  obtain ⟨all, hall, hearliest⟩ := map_eq_ok_iff.1 h
  have hmem : found ∈ all := by
    rcases mem_or_eq_of_foldl_better hearliest with hmem | hnone
    · exact hmem
    · exact absurd hnone (by simp)
  rcases (mem_candidates_iff hall).1 hmem with hstop | ⟨rule, hrule, hfound⟩
  · exact Or.inl hstop
  · obtain ⟨hinside, top, below, hstack, hmem⟩ := mem_rulesAt hrule
    exact Or.inr ⟨top, below, rule, hstack, hmem, hinside, hfound⟩

/-- The match of an end is found by the expression that ends the innermost region. -/
theorem of_ofStop? (h : ofStop? line pos stack = .ok (some found)) :
    found.step = .stop ∧ ∃ stop, (innermostRegion? stack).bind (·.stop) = some stop ∧
      stop.search line pos = .ok (some found.hit) := by
  unfold ofStop? at h
  split at h
  · rename_i stop hstop
    obtain ⟨result, hresult, hfound⟩ := map_eq_ok_iff.1 h
    obtain ⟨hit, rfl, rfl⟩ := Option.map_eq_some_iff.1 hfound
    exact ⟨rfl, stop, hstop, hresult⟩
  · exact absurd (Except.ok.inj h) (by simp)

/-- The match of a rule is found by the rule's expression. -/
theorem of_ofRule? {rule : Rule} (h : ofRule? line pos rule = .ok (some found)) :
    rule.regex.search line pos = .ok (some found.hit) ∧
      ((∃ r, rule = .single r ∧ found.step = .single r) ∨
        ∃ r ps, rule = .region r ps ∧ found.step = .region r ps) := by
  obtain ⟨result, hresult, hfound⟩ := map_eq_ok_iff.1 h
  obtain ⟨hit, rfl, rfl⟩ := Option.map_eq_some_iff.1 hfound
  refine ⟨hresult, ?_⟩
  cases rule with
  | single r => exact Or.inl ⟨r, rfl, rfl⟩
  | region r ps => exact Or.inr ⟨r, ps, rfl, rfl⟩

/-- **The next match lies between the place and the end of the line.** -/
theorem fits_of_next? (h : next? line pos stack = .ok (some found)) : found.hit.Fits line pos := by
  rcases of_next? h with hstop | ⟨top, below, rule, -, -, -, hrule⟩
  · obtain ⟨-, stop, -, hhit⟩ := of_ofStop? hstop
    exact Regex.search_fits hhit
  · exact Regex.search_fits (of_ofRule? hrule).1

/-- A region that can begin is that of a rule of the innermost scope. -/
theorem rule_of_next? (h : next? line pos stack = .ok (some found)) {r : Region} {ps : List Pattern}
    (hstep : found.step = .region r ps) :
    ∃ top below, stack = top :: below ∧ Rule.region r ps ∈ top.rules := by
  rcases of_next? h with hstop | ⟨top, below, rule, hstack, hmem, -, hrule⟩
  · rw [(of_ofStop? hstop).1] at hstep
    exact absurd hstep (by simp)
  · rcases (of_ofRule? hrule).2 with ⟨r', -, hsingle⟩ | ⟨r', ps', rfl, hregion⟩
    · rw [hsingle] at hstep
      exact absurd hstep (by simp)
    · obtain ⟨rfl, rfl⟩ := Step.region.inj (hregion.symm.trans hstep)
      exact ⟨top, below, hstack, hmem⟩

/-- A region can only end where the innermost region has an end. -/
theorem stop_of_next? (h : next? line pos stack = .ok (some found)) (hstep : found.step = .stop) :
    ∃ stop, (innermostRegion? stack).bind (·.stop) = some stop := by
  rcases of_next? h with hstop | ⟨top, below, rule, -, -, -, hrule⟩
  · obtain ⟨-, stop, hregion, -⟩ := of_ofStop? hstop
    exact ⟨stop, hregion⟩
  · rcases (of_ofRule? hrule).2 with ⟨r, -, h'⟩ | ⟨r, ps, -, h'⟩ <;>
      exact absurd (hstep.symm.trans h') (by simp)

end Found

namespace Progress

/-! ## Appending and moving on -/

/-- Emitting succeeds if the tokens can be merged, and changes the line only. -/
theorem emit_ok_iff {p q : Progress} {tokens : List Token} :
    p.emit tokens = .ok q ↔ ∃ l, p.line.mergeAll? tokens = some l ∧ q = { p with line := l } := by
  unfold emit
  cases p.line.mergeAll? tokens with
  | none => simp
  | some l => simp [eq_comm]

/-- Nothing but tokens out of their row keeps tokens from being appended. -/
theorem emit_error {p : Progress} {tokens : List Token} {e : Failure}
    (h : p.emit tokens = .error e) : e = .scattered := by
  unfold emit at h
  split at h
  · exact absurd h (by simp)
  · exact (Except.error.inj h).symm

/-- Whatever goes on after appending tokens goes on with the longer line. -/
theorem emit_bind_ok {p r : Progress} {tokens : List Token} {next : Progress → Option Progress}
    (h : (do let q ← p.emit tokens; return next q) = .ok (some r)) :
    ∃ l, p.line.mergeAll? tokens = some l ∧ next { p with line := l } = some r := by
  obtain ⟨q, hemit, hnext⟩ := bind_eq_ok_iff.1 h
  obtain ⟨l, hl, rfl⟩ := emit_ok_iff.1 hemit
  exact ⟨l, hl, Except.ok.inj hnext⟩

/-- Moving on appends the text on the way, if there is any; it never leads back. -/
theorem moveTo_eq (p : Progress) (pos : Nat) :
    p.moveTo pos =
      (p.emit (tokenOf p.pos pos p.stack)).map fun q => { q with pos := max p.pos pos } := by
  unfold moveTo tokenOf
  split
  · rename_i hlt
    rw [Nat.max_eq_right (Nat.le_of_lt hlt)]
    cases p.emit [⟨⟨p.pos, pos⟩, p.stack⟩] <;> rfl
  · rename_i hnot
    rw [Nat.max_eq_left (Nat.le_of_not_lt hnot)]
    rfl

/-- Moving on merges a token up to the new place. -/
theorem moveTo_ok {p q : Progress} {pos : Nat} (h : p.moveTo pos = .ok q) :
    ∃ l, p.line.mergeAll? (tokenOf p.pos pos p.stack) = some l ∧
      q = { p with pos := max p.pos pos, line := l } := by
  rw [moveTo_eq] at h
  cases hemit : p.emit (tokenOf p.pos pos p.stack) with
  | error e => rw [hemit] at h; exact absurd h (by simp [Except.map])
  | ok q' =>
    rw [hemit] at h
    obtain ⟨l, hl, rfl⟩ := emit_ok_iff.1 hemit
    exact ⟨l, hl, (Except.ok.inj h).symm⟩

/-- It fails only if the tokens are scattered. -/
theorem moveTo_error {p : Progress} {pos : Nat} {e : Failure} (h : p.moveTo pos = .error e) :
    e = .scattered := by
  rw [moveTo_eq] at h
  cases hemit : p.emit (tokenOf p.pos pos p.stack) with
  | error e' =>
    rw [hemit] at h
    obtain rfl : e' = e := Except.error.inj h
    exact emit_error hemit
  | ok q => rw [hemit] at h; exact absurd h (by simp [Except.map])

/-- A character takes at least one byte, and does not reach behind the end of the line. -/
theorem widthAt?_bounds {line : List Char} {pos width : Nat} (h : widthAt? line pos = some width) :
    0 < width ∧ pos + width ≤ byteLength line := by
  unfold widthAt? at h
  split at h
  · rename_i before c after hsplit
    obtain rfl := Option.some.inj h
    obtain ⟨rfl, rfl⟩ := Text.splitAtByte?_eq_some_iff.1 hsplit
    have := c.utf8Size_pos
    simp only [Text.byteLength_append, Text.byteLength_cons]
    omega
  · exact absurd h (by simp)

/-- One character has become a token of its own scopes. -/
inductive Consumed (line : List Char) (m : Progress) : Progress → Prop
  | mk {width : Nat} {l : TokenLine} (inside : m.pos < byteLength line)
      (hwidth : widthAt? line m.pos = some width)
      (hl : m.line.mergeAll? [⟨⟨m.pos, m.pos + width⟩, m.stack⟩] = some l) :
      Consumed line m { m with pos := m.pos + width, line := l }

/-- What is read is one character. -/
theorem consume_ok {line : List Char} {m q : Progress} (h : m.consume line = .ok (some q)) :
    Consumed line m q := by
  unfold consume at h
  split at h
  · exact absurd h (by simp)
  · rename_i hinside
    cases hwidth : widthAt? line m.pos with
    | none => rw [hwidth] at h; exact absurd h (by simp)
    | some width =>
      rw [hwidth] at h
      have hbounds := widthAt?_bounds hwidth
      obtain ⟨q', hmove, hq⟩ := bind_eq_ok_iff.1 h
      obtain rfl := Option.some.inj (Except.ok.inj hq)
      obtain ⟨l, hl, rfl⟩ := moveTo_ok hmove
      rw [tokenOf, if_pos (by omega)] at hl
      rw [Nat.max_eq_right (by omega)]
      exact ⟨by omega, hwidth, hl⟩

/-! ## One step -/

/-- What a step does that goes on. It has moved to `m`, where the match begins; the match is one of
the step that stands behind it. -/
inductive Went (lib : Library) (theme : Theme) (line : List Char) (m : Progress) (hit : Match) :
    Step → Progress → Library → Prop
  | ended {l : TokenLine}
      (hl : m.line.mergeAll? (captureTokens theme (byteLength line) hit
        (m.regionLevels.map (·.scope)) m.stopCaptures m.number) = some l) :
      Went lib theme line m hit .stop
        { m with
          pos := hit.range.stop
          levels := m.regionLevels.drop 1
          line := l
          number := m.number + m.stopCaptures.length } lib
  | matched {rule : MatchRule} {l : TokenLine} (hlt : hit.range.isEmpty = false)
      (hl : m.line.mergeAll? (captureTokens theme (byteLength line) hit (m.singleStack theme rule)
        rule.captures (m.number + 1)) = some l) :
      Went lib theme line m hit (.single rule)
        { m with
          pos := hit.range.stop
          line := l
          number := m.number + 1 + rule.captures.length } lib
  | skipped {rule : MatchRule} {q : Progress} (hempty : hit.range.isEmpty = true)
      (hq : Consumed line m q) : Went lib theme line m hit (.single rule) q lib
  | passed {r : Region} {ps : List Pattern} {q : Progress} (hrepeats : m.repeats r hit = true)
      (hq : Consumed line m q) : Went lib theme line m hit (.region r ps) q lib
  | begun {r : Region} {ps : List Pattern} {stop : Regex} {rules : List Rule} {l : TokenLine}
      (hrepeats : m.repeats r hit = false) (hstop : r.stop.resolve line hit = .ok stop)
      (hrules : (lib.nestedRules r ps).1 = .ok rules)
      (hl : m.line.mergeAll? (captureTokens theme (byteLength line) hit
        (m.regionScope theme r stop rules :: m.stack) r.startCaptures (m.number + 1)) = some l) :
      Went lib theme line m hit (.region r ps)
        { pos := hit.range.stop
          levels := m.openedLevels theme hit r stop rules
          emptyBegin := if hit.range.isEmpty then some (m.pos, m.levels.length) else m.emptyBegin
          line := l
          number := m.number + 1 + r.startCaptures.length + 1 } (lib.nestedRules r ps).2

section Step

variable {lib lib' : Library} {theme : Theme} {scope : ScopeName} {line : List Char}
  {p q m : Progress} {hit : Match}

/-- The end of a region is a step. -/
theorem endRegion_ok (h : m.endRegion theme line hit = .ok (some q)) :
    Went lib theme line m hit .stop q lib := by
  simp only [endRegion] at h
  obtain ⟨l, hl, hq⟩ := emit_bind_ok h
  obtain rfl := Option.some.inj hq
  exact .ended hl

/-- A single match is a step. -/
theorem applySingle_ok {rule : MatchRule} (h : m.applySingle theme line hit rule = .ok (some q)) :
    Went lib theme line m hit (.single rule) q lib := by
  simp only [applySingle] at h
  cases hempty : hit.range.isEmpty with
  | true => exact .skipped hempty (consume_ok (by simpa only [hempty, if_true] using h))
  | false =>
    rw [hempty, if_neg (by simp)] at h
    obtain ⟨l, hl, hq⟩ := emit_bind_ok h
    obtain rfl := Option.some.inj hq
    exact .matched hempty hl

/-- The begin of a region is a step. -/
theorem beginRegion_ok {r : Region} {ps : List Pattern} {stop : Regex} {rules : List Rule}
    (hrepeats : m.repeats r hit = false) (hstop : r.stop.resolve line hit = .ok stop)
    (hrules : (lib.nestedRules r ps).1 = .ok rules)
    (h : m.beginRegion theme line hit r stop rules = .ok (some q)) :
    Went lib theme line m hit (.region r ps) q (lib.nestedRules r ps).2 := by
  simp only [beginRegion] at h
  obtain ⟨l, hl, hq⟩ := emit_bind_ok h
  obtain rfl := Option.some.inj hq
  exact .begun hrepeats hstop hrules hl

/-- **A step that goes on** moves to where the next match begins and does what is to be done with
it. -/
theorem step_went (h : p.step lib theme scope line = (.ok (some q), lib')) :
    ∃ found m, Found.next? line p.pos p.stack = .ok (some found) ∧
      p.moveTo found.hit.range.start = .ok m ∧
      Went lib theme line m found.hit found.step q lib' := by
  unfold step at h
  cases hnext : Found.next? line p.pos p.stack with
  | error e => rw [hnext] at h; exact absurd h (by simp)
  | ok result =>
    cases result with
    | none => rw [hnext] at h; exact absurd h (by simp)
    | some found =>
      rw [hnext] at h
      dsimp only at h
      cases hmove : p.moveTo found.hit.range.start with
      | error e => rw [hmove] at h; exact absurd h (by simp)
      | ok m =>
        rw [hmove] at h
        dsimp only at h
        refine ⟨found, m, rfl, hmove, ?_⟩
        cases hstep : found.step with
        | stop =>
          rw [hstep] at h
          obtain ⟨hq, rfl⟩ := Prod.mk.inj h
          exact endRegion_ok hq
        | single rule =>
          rw [hstep] at h
          obtain ⟨hq, rfl⟩ := Prod.mk.inj h
          exact applySingle_ok hq
        | region r ps =>
          rw [hstep] at h
          dsimp only at h
          cases hrepeats : m.repeats r found.hit with
          | true =>
            rw [hrepeats, if_pos rfl] at h
            obtain ⟨hq, rfl⟩ := Prod.mk.inj h
            exact .passed hrepeats (consume_ok hq)
          | false =>
            rw [hrepeats, if_neg (by simp)] at h
            cases hstop : r.stop.resolve line found.hit with
            | error cause => rw [hstop] at h; exact absurd h (by simp)
            | ok stop =>
              rw [hstop] at h
              dsimp only at h
              cases hrules : lib.nestedRules r ps with
              | mk result lib'' =>
                rw [hrules] at h
                cases result with
                | error e => exact absurd h (by simp)
                | ok rules =>
                  obtain ⟨hq, rfl⟩ := Prod.mk.inj h
                  have hwent := beginRegion_ok hrepeats hstop (congrArg Prod.fst hrules) hq
                  rwa [congrArg Prod.snd hrules] at hwent

end Step

/-! ## Any number of steps -/

/-- What any number of steps leads to. -/
inductive Reached (theme : Theme) (scope : ScopeName) (line : List Char) (lib : Library)
    (p : Progress) : Library → Progress → Prop
  | refl : Reached theme scope line lib p lib p
  | step {lib' lib'' : Library} {q r : Progress} (h : Reached theme scope line lib p lib' q)
      (hstep : q.step lib' theme scope line = (.ok (some r), lib'')) :
      Reached theme scope line lib p lib'' r

section Run

variable {theme : Theme} {scope : ScopeName} {line : List Char} {lib lib' lib'' : Library}
  {p q r : Progress}

/-- What is reached behind a step is reached. -/
theorem Reached.head (hstep : p.step lib theme scope line = (.ok (some q), lib'))
    (h : Reached theme scope line lib' q lib'' r) : Reached theme scope line lib p lib'' r := by
  induction h with
  | refl => exact .step .refl hstep
  | step _ hlast ih => exact .step ih hlast

/-- **A run ends where no step goes on.** -/
theorem run_ok {fuel : Nat} (h : run theme scope line fuel lib p = (.ok q, lib')) :
    ∃ mid, Reached theme scope line lib p mid q ∧
      q.step mid theme scope line = (.ok none, lib') := by
  induction fuel generalizing lib p with
  | zero => exact absurd h (by simp [run])
  | succ fuel ih =>
    rw [run] at h
    cases hstep : p.step lib theme scope line with
    | mk result next =>
      rw [hstep] at h
      match result with
      | .error e => exact absurd h (by simp)
      | .ok none =>
        obtain ⟨hq, rfl⟩ := Prod.mk.inj h
        obtain rfl := Except.ok.inj hq
        exact ⟨lib, .refl, hstep⟩
      | .ok (some p') =>
        obtain ⟨mid, hreached, hlast⟩ := ih h
        exact ⟨mid, hreached.head hstep, hlast⟩

/-- A run fails where a step does, unless it was given too little fuel. -/
theorem run_error {fuel : Nat} {e : Failure}
    (h : run theme scope line fuel lib p = (.error e, lib')) :
    e = .endless ∨ ∃ mid q, Reached theme scope line lib p mid q ∧
      q.step mid theme scope line = (.error e, lib') := by
  induction fuel generalizing lib p with
  | zero => exact Or.inl (Except.error.inj (Prod.mk.inj h).1).symm
  | succ fuel ih =>
    rw [run] at h
    cases hstep : p.step lib theme scope line with
    | mk result next =>
      rw [hstep] at h
      match result with
      | .error e' =>
        obtain ⟨he, rfl⟩ := Prod.mk.inj h
        obtain rfl := Except.error.inj he
        exact Or.inr ⟨lib, p, .refl, hstep⟩
      | .ok none => exact absurd h (by simp)
      | .ok (some p') =>
        rcases ih h with hfuel | ⟨mid, q, hreached, hlast⟩
        · exact Or.inl hfuel
        · exact Or.inr ⟨mid, q, hreached.head hstep, hlast⟩

end Run

end Progress

/-! ## Lines -/

namespace Library

variable {lib : Library} {id : Nat} {theme : Theme} {line : List Char} {state : LineState}

/-- Tokenizing a line of a grammar whose rules are found gives the whole line as one token, if it is
too long, and otherwise what the run over it leads to. -/
theorem tokenizeLine_fst {rules : List Rule} (h : (lib.rules id).1 = .ok rules) :
    (lib.tokenizeLine id theme line state).1 =
      if (lib.rules id).2.options.maxLineLength < byteLength line then
        .ok (⟨[⟨⟨0, byteLength line⟩, state.stack⟩]⟩, state)
      else ((lib.rules id).2.runLine id theme line state).1.bind (·.finish line) := by
  unfold tokenizeLine
  cases hrules : lib.rules id with
  | mk result lib' =>
    rw [hrules] at h
    dsimp only at h ⊢
    subst h
    dsimp only
    split
    · rename_i hlong
      have hmerge : TokenLine.empty.merge? ⟨⟨0, byteLength line⟩, state.stack⟩ =
          some ⟨[⟨⟨0, byteLength line⟩, state.stack⟩]⟩ := by
        have hempty : Text.Span.isEmpty ⟨0, byteLength line⟩ = false := by
          simp only [Text.Span.isEmpty, decide_eq_false_iff_not]
          omega
        simp [TokenLine.merge?, hempty, TokenLine.empty, TokenLine.dropEmptyEnd, TokenLine.add?,
          TokenLine.length]
      rw [hmerge]
    · cases lib'.runLine id theme line state with
      | mk outcome lib'' => cases outcome <;> rfl

end Library

end ScopePaint
