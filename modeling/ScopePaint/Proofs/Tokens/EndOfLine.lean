import ScopePaint.Proofs.Tokens.NextMatch
import ScopePaint.Proofs.Tokens.StackShape

/-!
# Regions that can end at the end of a line are ended there

The work on a line stops in three ways: nothing is found any more, or what is found is a match of
nothing at the end of the line, of a pattern without a region or of a begin that would lead nowhere.
In none of them is the end of the innermost region to be found from where the work stops
(`Progress.ofStop?_of_step`): it would begin at the end of the line at the latest, and of matches that
begin together the end goes first. What is not found from there is not found from the end of the line
(`Library.tokenizeLine_ends`), because the place where the work stops lies between two characters
(`Progress.Reached.boundary`).
-/

set_option autoImplicit false

namespace ScopePaint

open Text (IsBoundary byteLength)

namespace Progress

variable {lib lib' : Library} {theme : Theme} {scope : ScopeName} {line : List Char}
  {p q m : Progress} {hit : Match} {step : Step}

/-! ## Places between characters -/

/-- A place stays between characters. -/
theorem Consumed.boundary (hq : Consumed line m q) : IsBoundary line q.pos := by
  cases hq with
  | mk inside hwidth hl =>
    unfold widthAt? at hwidth
    split at hwidth
    · rename_i before c after hsplit
      obtain rfl := Option.some.inj hwidth
      obtain ⟨hline, hlength⟩ := Text.splitAtByte?_eq_some_iff.1 hsplit
      refine ⟨before ++ [c], after, by rw [hline, List.append_assoc]; rfl, ?_⟩
      rw [Text.byteLength_append, hlength, Text.byteLength_cons, Text.byteLength_nil, Nat.add_zero]
    · exact absurd hwidth (by simp)

/-- **A step leads to a place between two characters**, whatever it does. -/
theorem step_boundary (h : p.step lib theme scope line = (.ok (some q), lib')) :
    IsBoundary line q.pos := by
  obtain ⟨⟨hit, step⟩, m, hnext, -, hwent⟩ := step_went h
  have hstop : IsBoundary line hit.range.stop := (Found.fits_of_next? hnext).stop
  cases hwent with
  | ended hl => exact hstop
  | matched hlt hl => exact hstop
  | skipped hempty hc => exact hc.boundary
  | passed hrepeats hc => exact hc.boundary
  | begun hrepeats _ hrules hl => exact hstop

/-- All places that are reached lie between characters. -/
theorem Reached.boundary (h : Reached theme scope line lib p lib' q) (hp : IsBoundary line p.pos) :
    IsBoundary line q.pos := by
  cases h with
  | refl => exact hp
  | step _ hstep => exact step_boundary hstep

/-! ## Where the work stops -/

/-- Nothing is read at the end of a line. -/
theorem consume_none (h : m.consume line = .ok none) : byteLength line ≤ m.pos := by
  unfold consume at h
  split at h
  · rename_i hend
    exact hend
  · split at h
    · exact absurd h (by simp)
    · obtain ⟨q, -, hq⟩ := bind_eq_ok_iff.1 h
      exact absurd (Except.ok.inj hq) (by simp)

/-- Whatever goes on after appending tokens does not stop. -/
theorem emit_bind_ne_none {tokens : List Token} {next : Progress → Progress} :
    (do let q ← p.emit tokens; return some (next q)) ≠ .ok none := by
  intro h
  obtain ⟨q, -, hq⟩ := bind_eq_ok_iff.1 h
  exact absurd (Except.ok.inj hq) (by simp)

/-- A single match is the last one at the end of a line. -/
theorem applySingle_none {rule : MatchRule} (h : m.applySingle theme line hit rule = .ok none) :
    byteLength line ≤ m.pos := by
  unfold applySingle at h
  split at h
  · exact consume_none h
  · exact absurd h emit_bind_ne_none

/-- **The work stops** where nothing is found, or where what is found is no end and begins at the end
of the line. -/
theorem step_none (h : p.step lib theme scope line = (.ok none, lib')) :
    Found.next? line p.pos p.stack = .ok none ∨
      ∃ found, Found.next? line p.pos p.stack = .ok (some found) ∧ found.step ≠ .stop ∧
        byteLength line ≤ found.hit.range.start := by
  unfold Progress.step at h
  cases hnext : Found.next? line p.pos p.stack with
  | error e => rw [hnext] at h; exact absurd h (by simp)
  | ok result =>
    cases result with
    | none => exact Or.inl rfl
    | some found =>
      refine Or.inr ⟨found, rfl, ?_⟩
      rw [hnext] at h
      dsimp only at h
      cases hmove : p.moveTo found.hit.range.start with
      | error e =>
        rw [hmove] at h
        exact absurd h (by simp)
      | ok m =>
        have hpos : m.pos = found.hit.range.start := by
          obtain ⟨l, -, rfl⟩ := moveTo_ok hmove
          exact Nat.max_eq_right (Found.fits_of_next? hnext).after
        rw [hmove] at h
        dsimp only at h
        cases hstep : found.step with
        | stop =>
          rw [hstep] at h
          exact absurd (Prod.mk.inj h).1 emit_bind_ne_none
        | single rule =>
          rw [hstep] at h
          exact ⟨by simp, hpos ▸ applySingle_none (Prod.mk.inj h).1⟩
        | region r ps =>
          rw [hstep] at h
          dsimp only at h
          split at h
          · exact ⟨by simp, hpos ▸ consume_none (Prod.mk.inj h).1⟩
          · split at h
            · exact absurd (Prod.mk.inj h).1 (by simp)
            · split at h
              · exact absurd (Prod.mk.inj h).1 (by simp)
              · exact absurd (Prod.mk.inj h).1 emit_bind_ne_none

/-- **Where the work stops, the end of the innermost region is not found**: it would go first. -/
theorem ofStop?_of_step (h : p.step lib theme scope line = (.ok none, lib')) :
    Found.ofStop? line p.pos p.stack = .ok none := by
  rcases step_none h with hnone | ⟨found, hnext, hother, hend⟩
  · exact Found.ofStop?_of_next? hnone
  · obtain ⟨all, hall, -⟩ := map_eq_ok_iff.1 hnext
    obtain ⟨result, -, hresult, -⟩ := Found.candidates_eq_ok_iff.1 hall
    cases result with
    | none => exact hresult
    | some stop =>
      obtain ⟨hstep, regex, -, hsearch⟩ := Found.of_ofStop? hresult
      have hfits := Regex.search_fits hsearch
      have hordered := hfits.ordered
      have hinside := hfits.inside
      rcases Found.eq_or_lt_of_ofStop? hnext hresult with rfl | hlt
      · exact absurd hstep hother
      · omega

/-- The rest of a line leaves the scopes as they are. -/
theorem stack_of_finish {tokens : TokenLine} {next : LineState}
    (h : p.finish line = .ok (tokens, next)) : next.stack = p.stack := by
  obtain ⟨q, hmove, hnext⟩ := bind_eq_ok_iff.1 h
  obtain ⟨l, -, rfl⟩ := moveTo_ok hmove
  obtain ⟨-, rfl⟩ := Prod.mk.inj (Except.ok.inj hnext)
  rfl

end Progress

namespace Library

variable {lib : Library} {id : Nat} {theme : Theme} {line : List Char} {state next : LineState}
  {tokens : TokenLine}

/-- A line that is tokenized has rules. -/
theorem exists_rules_of_tokenizeLine
    (h : (lib.tokenizeLine id theme line state).1 = .ok (tokens, next)) :
    ∃ rules, (lib.rules id).1 = .ok rules := by
  unfold tokenizeLine at h
  cases hrules : lib.rules id with
  | mk outcome lib' =>
    rw [hrules] at h
    cases outcome with
    | error e => exact absurd h (by simp)
    | ok rules => exact ⟨rules, rfl⟩

/-- A line that is cut into tokens and is not too long was worked on until the work stopped. -/
theorem exists_run_of_tokenizeLine (hshort : byteLength line ≤ lib.options.maxLineLength)
    (h : (lib.tokenizeLine id theme line state).1 = .ok (tokens, next)) :
    ∃ p, ((lib.rules id).2.runLine id theme line state).1 = .ok p ∧
      p.finish line = .ok (tokens, next) := by
  obtain ⟨rules, hrules⟩ := exists_rules_of_tokenizeLine h
  have hoptions : (lib.rules id).2.options = lib.options := (lib.rules_snd id).1.options.symm
  rw [tokenizeLine_fst hrules, hoptions, if_neg (Nat.not_lt.2 hshort)] at h
  exact bind_eq_ok_iff.1 h

/-- **Regions that can end at the end of a line are ended there.** Wherever a line that is not too
long starts, the end of the innermost region that goes on to the next line is not found from the end
of the line, unless its expression asks where a search began. -/
theorem tokenizeLine_ends (hshort : byteLength line ≤ lib.options.maxLineLength)
    (h : (lib.tokenizeLine id theme line state).1 = .ok (tokens, next)) {stop : Regex}
    (hstop : (Found.innermostRegion? next.stack).bind (·.stop) = some stop)
    (hfloats : stop.program.floats true = true) :
    stop.search line (byteLength line) = .ok none := by
  obtain ⟨p, hrun, hfinish⟩ := exists_run_of_tokenizeLine hshort h
  obtain ⟨mid, hreached, hlast⟩ := Progress.run_ok (Prod.ext hrun rfl)
  have hpos : IsBoundary line p.pos := hreached.boundary (Text.isBoundary_zero line)
  have hnone : stop.search line p.pos = .ok none := by
    have hstop? := Progress.ofStop?_of_step hlast
    rw [← Progress.stack_of_finish hfinish, Found.ofStop?, hstop] at hstop?
    obtain ⟨result, hresult, hmap⟩ := map_eq_ok_iff.1 hstop?
    rw [hresult, Option.map_eq_none_iff.1 hmap]
  exact Regex.search_eq_none_of_le hfloats hpos (Text.isBoundary_byteLength line) hpos.le hnone

/-- A grammar file with remarks, which end with their line, inside of tags, which need not. -/
def remarkRecord : GrammarRecord where
  scopeName := "source.remarks"
  patterns := [
    { name := some "meta.tag", beginSource := some "<", endSource := some ">",
      patterns := some [
        { name := some "comment", beginSource := some "#", endSource := some "$" }] }]

/-- What a line with a remark in an open tag leads to. -/
def remarkOutcome : Except Failure (TokenLine × LineState) :=
  ((ofRecord remarkRecord).tokenizeLine 0 Theme.builtin "<#c".toList (startOf remarkRecord)).1

/-- The remark has ended with its line, and the tag goes on. -/
theorem tokenizeLine_ends_remark :
    ∃ tokens next stop, remarkOutcome = .ok (tokens, next) ∧
      (Found.innermostRegion? next.stack).bind (·.stop) = some stop ∧ stop.source = ">" ∧
      stop.search "<#c".toList 3 = .ok none := by
  have hgoes : (remarkOutcome.toOption.bind fun result =>
      (Found.innermostRegion? result.2.stack).bind (·.stop)).any
        (fun stop => stop.source == ">" && stop.program.floats true) = true := by decide +kernel
  cases hline : remarkOutcome with
  | error e =>
    rw [hline] at hgoes
    exact absurd hgoes (by simp [Except.toOption])
  | ok result =>
    obtain ⟨tokens, next⟩ := result
    rw [hline] at hgoes
    obtain ⟨stop, hstop, hchecks⟩ := (Option.any_eq_true _ _).1 hgoes
    obtain ⟨hsource, hfloats⟩ := Bool.and_eq_true_iff.1 hchecks
    exact ⟨tokens, next, stop, rfl, hstop, beq_iff_eq.1 hsource,
      tokenizeLine_ends (by decide +kernel) hline hstop hfloats⟩

end Library

end ScopePaint
