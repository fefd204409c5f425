import Mathlib.Tactic.Linarith
import Mathlib.Tactic.Ring
import ScopePaint.Proofs.Tokens.StackShape
import ScopePaint.Theme.Default

/-!
# Tokenizing a line ends

Steps that stay at a place either end a region or begin one, both by a match of nothing right there,
so neither the place nor the depth of the stack tells how far the work has come. What a step does
depends only on the place and the stack, and from this follows in what order they can come:

* first only ends, no more than the stack is deep;
* then only begins. None of them is of a region that has begun at this place and is still open, so
  there are no more than the library has regions;
* then at most one end. It leads back to the stack that the last begin was found on, where it would
  be found again, and its place and depth are remembered: so a character is consumed.

Each place is bounded in this way (`Progress.halts_of_arrived`), a line has finitely many of them, and
`Library.stepLimit` is more than what comes together (`Progress.halts_start`). The search that leads
to a place may have found something else than the searches from it, because it began elsewhere; the
argument speaks only of the latter.
-/

set_option autoImplicit false

namespace ScopePaint

open Text (byteLength)

namespace Progress

/-! ## Runs that end -/

/-- A run ends after no more steps than a number says, and more fuel makes no difference. -/
def Halts (theme : Theme) (scope : ScopeName) (line : List Char) (steps : Nat) (lib : Library)
    (p : Progress) : Prop :=
  ∃ result, result.1 ≠ .error .endless ∧
    ∀ fuel, steps ≤ fuel → run theme scope line fuel lib p = result

section Halts

variable {theme : Theme} {scope : ScopeName} {line : List Char} {lib lib' : Library}
  {p q m : Progress} {hit : Match} {n : Nat}

/-- What halts within some steps halts within more of them. -/
theorem Halts.mono (h : Halts theme scope line n lib p) {n' : Nat} (hle : n ≤ n') :
    Halts theme scope line n' lib p := by
  obtain ⟨result, hresult, hrun⟩ := h
  exact ⟨result, hresult, fun fuel hfuel => hrun fuel (Nat.le_trans hle hfuel)⟩

/-- Emitting tokens is not endless. -/
theorem emit_ne_endless (p : Progress) (tokens : List Token) :
    p.emit tokens ≠ .error .endless := fun h => by
  simpa using emit_error h

/-- Moving on is not endless. -/
theorem moveTo_ne_endless (p : Progress) (pos : Nat) : p.moveTo pos ≠ .error .endless := fun h => by
  simpa using moveTo_error h

/-- Reading a character is not endless. -/
theorem consume_ne_endless (p : Progress) : p.consume line ≠ .error .endless := by
  unfold consume
  split
  · simp
  · split
    · simp
    · intro h
      rcases bind_eq_error_iff.1 h with hmove | ⟨q, -, hdone⟩
      · exact moveTo_ne_endless p _ hmove
      · exact absurd hdone (by simp [pure, Except.pure])

/-- What is done after appending tokens cannot run out of fuel. -/
theorem emit_bind_ne_endless (p : Progress) (tokens : List Token)
    (next : Progress → Option Progress) :
    (do let q ← p.emit tokens; return next q) ≠ .error .endless := by
  intro h
  rcases bind_eq_error_iff.1 h with hemit | ⟨q, -, hdone⟩
  · exact emit_ne_endless p tokens hemit
  · exact absurd hdone (by simp [pure, Except.pure])

/-- A single match is not endless. -/
theorem applySingle_ne_endless (p : Progress) (rule : MatchRule) :
    p.applySingle theme line hit rule ≠ .error .endless := by
  unfold applySingle
  split
  · exact consume_ne_endless p
  · exact emit_bind_ne_endless p _ _

end Halts

end Progress

namespace Library

/-- Looking for the rules of a region is not endless. -/
theorem nestedRules_ne_endless (lib : Library) (r : Region) (patterns : List Pattern) :
    (lib.nestedRules r patterns).1 ≠ .error .endless := by
  rw [nestedRules_fst]
  cases lib.nested.lookup r.place with
  | some rules => simp
  | none =>
    dsimp only
    cases lib.find? r.grammar.text with
    | none => simp
    | some g =>
      intro h
      obtain ⟨cause, hcause⟩ := resolve_error h
      exact absurd hcause (by simp)

end Library

namespace Progress

section Halts

variable {theme : Theme} {scope : ScopeName} {line : List Char} {lib lib' : Library}
  {p q m : Progress} {hit : Match} {n : Nat}

/-- A single step never runs out of fuel. -/
theorem step_ne_endless : (p.step lib theme scope line).1 ≠ .error .endless := by
  unfold step
  cases Found.next? line p.pos p.stack with
  | error e => simp
  | ok result =>
    cases result with
    | none => simp
    | some found =>
      dsimp only
      cases hmove : p.moveTo found.hit.range.start with
      | error e =>
        intro h
        obtain rfl : e = .endless := Except.error.inj h
        exact moveTo_ne_endless p _ hmove
      | ok m =>
        dsimp only
        cases found.step with
        | stop => exact emit_bind_ne_endless m _ _
        | single rule => exact applySingle_ne_endless m rule
        | region r ps =>
          dsimp only
          split
          · exact consume_ne_endless m
          · cases r.stop.resolve line found.hit with
            | error cause => simp
            | ok stop =>
              dsimp only
              have hrules := lib.nestedRules_ne_endless r ps
              split
              · rename_i heq; rw [heq] at hrules; simpa using hrules
              · exact emit_bind_ne_endless m _ _

/-- **A run ends if what comes after its first step does.** -/
theorem Halts.of_step
    (h : ∀ q lib', p.step lib theme scope line = (.ok (some q), lib') →
      Halts theme scope line n lib' q) : Halts theme scope line (n + 1) lib p := by
  have hne := @step_ne_endless theme scope line lib p
  cases hstep : p.step lib theme scope line with
  | mk result lib' =>
    rw [hstep] at hne
    have hsucc : ∀ fuel, n + 1 ≤ fuel → ∃ rest, fuel = rest + 1 ∧ n ≤ rest :=
      fun fuel hfuel => ⟨fuel - 1, by omega, by omega⟩
    match result with
    | .error e =>
      refine ⟨(.error e, lib'), by simpa using hne, fun fuel hfuel => ?_⟩
      obtain ⟨rest, rfl, -⟩ := hsucc fuel hfuel
      rw [run, hstep]
    | .ok none =>
      refine ⟨(.ok p, lib'), by simp, fun fuel hfuel => ?_⟩
      obtain ⟨rest, rfl, -⟩ := hsucc fuel hfuel
      rw [run, hstep]
    | .ok (some q) =>
      obtain ⟨result, hresult, hrun⟩ := h q lib' hstep
      refine ⟨result, hresult, fun fuel hfuel => ?_⟩
      obtain ⟨rest, rfl, hrest⟩ := hsucc fuel hfuel
      rw [run, hstep]
      exact hrun rest hrest

end Halts

/-! ## Regions that began at a place -/

/-- The places of the regions that are open and whose begin ended at an offset. -/
def openedAt (offset : Nat) (levels : List Level) : List RegionPlace :=
  levels.filterMap fun level =>
    if level.openedAt = some offset then level.scope.openedBy.map (·.place) else none

/-- The place lies in the line, no region has begun behind it, and no two open regions that began
there are the same. -/
structure Ordered (line : List Char) (p : Progress) : Prop where
  inside : p.pos ≤ byteLength line
  opened : ∀ level ∈ p.levels, ∀ offset, level.openedAt = some offset → offset ≤ p.pos
  nodup : (openedAt p.pos p.levels).Nodup

section Opened

variable {line : List Char} {p q : Progress} {theme : Theme} {hit : Match} {r : Region}
  {stop : Regex} {rules : List Rule} {offset : Nat} {levels : List Level}

/-- No level was opened at a place behind all that were. -/
theorem openedAt_eq_nil (h : ∀ level ∈ levels, ∀ x, level.openedAt = some x → x < offset) :
    openedAt offset levels = [] := by
  refine List.filterMap_eq_nil_iff.2 fun level hmem => ?_
  rw [if_neg]
  intro heq
  exact absurd (h level hmem offset heq) (Nat.lt_irrefl offset)

/-- Of fewer levels fewer were opened at a place. -/
theorem openedAt_sublist {levels' : List Level} (h : levels'.Sublist levels) :
    (openedAt offset levels').Sublist (openedAt offset levels) := h.filterMap _

/-- The levels below a region are among all levels. -/
theorem regionLevels_sublist (p : Progress) : (p.regionLevels.drop 1).Sublist p.levels := by
  refine (List.drop_sublist _ _).trans ?_
  unfold regionLevels
  split
  · rename_i heq
    rw [heq]
    split
    · exact List.sublist_cons_self _ _
    · exact List.Sublist.refl _
  · exact List.nil_sublist _

/-- The end of a region leaves fewer levels. -/
theorem length_regionLevels_lt (hne : p.levels ≠ []) :
    (p.regionLevels.drop 1).length < p.levels.length := by
  unfold regionLevels
  split
  · rename_i top below heq
    rw [heq]
    split <;> simp only [List.length_drop, List.length_cons] <;> omega
  · rename_i heq
    exact absurd heq hne

/-- Behind a region that has just begun are the levels that were there before. -/
theorem regionLevels_openedLevels (hq : q.levels = p.openedLevels theme hit r stop rules) :
    q.regionLevels.drop 1 = p.levels := by
  unfold regionLevels
  rw [hq, openedLevels]
  cases r.content with
  | none => rfl
  | some name => rfl

/-- The begin of a region opens two levels at most. -/
theorem length_openedLevels : (p.openedLevels theme hit r stop rules).length ≤
    p.levels.length + 2 := by
  unfold openedLevels
  cases r.content with
  | none => simp
  | some name => simp

/-- A region that begins is the only one that is new where its begin ends. -/
theorem openedAt_openedLevels :
    openedAt hit.range.stop (p.openedLevels theme hit r stop rules) =
      r.place :: openedAt hit.range.stop p.levels := by
  unfold openedLevels openedAt
  cases r.content with
  | none => simp [regionScope]
  | some name => simp [regionScope, Scope.inside]

/-- The levels it opens were opened at the end of its match. -/
theorem openedAt_of_mem_openedLevels {level : Level}
    (h : level ∈ p.openedLevels theme hit r stop rules) :
    level ∈ p.levels ∨ level.openedAt = some hit.range.stop := by
  unfold openedLevels at h
  cases hname : r.content with
  | none =>
    rw [hname] at h
    rcases List.mem_cons.1 h with rfl | h
    · exact Or.inr rfl
    · exact Or.inl h
  | some name =>
    rw [hname] at h
    rcases List.mem_cons.1 h with rfl | h
    · exact Or.inr rfl
    · rcases List.mem_cons.1 h with rfl | h
      · exact Or.inr rfl
      · exact Or.inl h

/-- A region that is not open again at the place is none of those that began there. -/
theorem not_mem_openedAt (h : p.reopens r = false) : r.place ∉ openedAt p.pos p.levels := by
  intro hmem
  obtain ⟨level, hlevel, hplace⟩ := List.mem_filterMap.1 hmem
  split at hplace
  · rename_i hopened
    obtain ⟨opened, hregion, heq⟩ := Option.map_eq_some_iff.1 hplace
    have hreopens : p.reopens r = true := by
      refine List.any_eq_true.2 ⟨level, hlevel, ?_⟩
      simp [hopened, hregion, heq]
    rw [h] at hreopens
    exact absurd hreopens (by simp)
  · exact absurd hplace (by simp)

/-- At the start of a line the levels are in order. -/
theorem Ordered.start (line : List Char) (state : LineState) : (start state).Ordered line where
  inside := Nat.zero_le _
  opened := by
    intro level hmem offset hoffset
    obtain ⟨s, -, rfl⟩ := List.mem_map.1 hmem
    exact absurd hoffset (by simp)
  nodup := by
    have hnil : openedAt 0 (Progress.start state).levels = [] := by
      refine openedAt_eq_nil fun level hmem x hx => ?_
      obtain ⟨s, -, rfl⟩ := List.mem_map.1 hmem
      exact absurd hx (by simp)
    show (openedAt 0 (Progress.start state).levels).Nodup
    rw [hnil]
    exact List.nodup_nil

/-- There are no more open regions that began at the place than the library has regions. -/
theorem length_openedAt_le {base : Library} {id : Nat} {themes : Theme → Prop}
    (h : p.WellShaped base id themes) (ho : p.Ordered line) :
    (openedAt p.pos p.levels).length ≤ base.regionCount := by
  refine Library.length_le_regionCount ho.nodup fun place hmem => ?_
  obtain ⟨level, hlevel, hplace⟩ := List.mem_filterMap.1 hmem
  split at hplace
  · obtain ⟨r, hr, rfl⟩ := Option.map_eq_some_iff.1 hplace
    obtain ⟨ps, hps⟩ := h.shaped.opened_mem level.scope (List.mem_map_of_mem hlevel) r hr
    exact ⟨(r, ps), hps, rfl⟩
  · exact absurd hplace (by simp)

end Opened

/-! ## Steps that stay at a place -/

/-- The next match from a place is the begin of a region by nothing right there. -/
def BeginsHere (line : List Char) (pos : Nat) (stack : ScopeStack) : Prop :=
  ∃ found r ps, Found.next? line pos stack = .ok (some found) ∧ found.step = .region r ps ∧
    found.hit.range = ⟨pos, pos⟩

/-- What a step does that stays at the place: it ends a region, or begins one that has not begun
there before. -/
inductive Stays (theme : Theme) (line : List Char) (p : Progress) : Progress → Prop
  | ended {q : Progress} (hpos : q.pos = p.pos) (hlevels : q.levels = p.regionLevels.drop 1)
      (hempty : q.emptyBegin = p.emptyBegin) (hnot : ¬ BeginsHere line p.pos p.stack) :
      Stays theme line p q
  | begun {q : Progress} {hit : Match} {r : Region} {stop : Regex} {rules : List Rule}
      (hpos : q.pos = p.pos) (hstop : hit.range.stop = p.pos)
      (hlevels : q.levels = p.openedLevels theme hit r stop rules)
      (hempty : q.emptyBegin = some (p.pos, p.levels.length))
      (hhere : BeginsHere line p.pos p.stack)
      (hforgotten : p.emptyBegin ≠ some (p.pos, p.levels.length))
      (hclosed : p.reopens r = false) : Stays theme line p q

section Stays

variable {theme : Theme} {scope : ScopeName} {line : List Char} {lib lib' : Library}
  {p q m : Progress}

/-- Consuming a character leads on. -/
theorem Consumed.leads (hq : Consumed line m q) :
    m.pos < q.pos ∧ q.pos ≤ byteLength line ∧ q.levels = m.levels := by
  cases hq with
  | mk inside hwidth hl =>
    have := widthAt?_bounds hwidth
    exact ⟨by dsimp only; omega, this.2, rfl⟩

/-- **A step leads on or stays.** If it leads on, the stack grows by at most two scopes, and all
regions that have begun were there before or begin at the new place. -/
theorem step_stays (hstep : p.step lib theme scope line = (.ok (some q), lib')) :
    (p.pos < q.pos ∧ q.pos ≤ byteLength line ∧ q.levels.length ≤ p.levels.length + 2 ∧
      (q.levels.Sublist p.levels ∨ ∃ hit r stop rules, hit.range.stop = q.pos ∧
        q.levels = p.openedLevels theme hit r stop rules)) ∨ Stays theme line p q := by
  obtain ⟨⟨hit, step⟩, m, hnext, hmove, hwent⟩ := step_went hstep
  have hfits := Found.fits_of_next? hnext
  have hafter := hfits.after
  have hordered := hfits.ordered
  have hinside := hfits.inside
  obtain ⟨l, -, rfl⟩ := moveTo_ok hmove
  dsimp only at hafter hordered hinside hwent
  rw [Nat.max_eq_right hafter] at hwent
  have hconsumed : ∀ q, Consumed line { p with pos := hit.range.start, line := l } q →
      p.pos < q.pos ∧ q.pos ≤ byteLength line ∧ q.levels.length ≤ p.levels.length + 2 ∧
        (q.levels.Sublist p.levels ∨ ∃ hit r stop rules, hit.range.stop = q.pos ∧
          q.levels = p.openedLevels theme hit r stop rules) := by
    intro q hq
    obtain ⟨hlt, hle, hlevels⟩ := hq.leads
    dsimp only at hlt hlevels
    rw [hlevels]
    exact ⟨by omega, hle, by omega, Or.inl (List.Sublist.refl _)⟩
  cases hwent with
  | ended hl =>
    by_cases hpos : p.pos < hit.range.stop
    · have hsub := regionLevels_sublist p
      have hlength := hsub.length_le
      exact Or.inl ⟨hpos, hinside, Nat.le_trans hlength (by omega), Or.inl hsub⟩
    · refine Or.inr (.ended (by dsimp only; omega) rfl rfl ?_)
      rintro ⟨other, r, ps, hother, hregion, -⟩
      obtain rfl := Option.some.inj (Except.ok.inj (hnext.symm.trans hother))
      exact absurd hregion (by simp)
  | matched hlt hl =>
    simp only [Text.Span.isEmpty, decide_eq_false_iff_not, Nat.not_le] at hlt
    exact Or.inl ⟨by dsimp only; omega, hinside, by dsimp only; omega,
      Or.inl (List.Sublist.refl _)⟩
  | skipped hempty hc => exact Or.inl (hconsumed _ hc)
  | passed hrepeats hc => exact Or.inl (hconsumed _ hc)
  | @begun r ps stop rules _ hrepeats hstop hrules hl =>
    by_cases hpos : p.pos < hit.range.stop
    · exact Or.inl ⟨hpos, hinside, length_openedLevels,
        Or.inr ⟨hit, r, stop, rules, rfl, rfl⟩⟩
    · have hstart : hit.range.start = p.pos := by omega
      have hend : hit.range.stop = p.pos := by omega
      have hempty : hit.range.isEmpty = true := by
        simp only [Text.Span.isEmpty, decide_eq_true_eq]; omega
      simp only [repeats, hempty, hstart, Bool.true_and, Bool.or_eq_false_iff,
        beq_eq_false_iff_ne] at hrepeats
      have hrange : hit.range = ⟨p.pos, p.pos⟩ := congrArg₂ Text.Span.mk hstart hend
      refine Or.inr (.begun hend hend rfl ?_ ⟨_, r, ps, hnext, rfl, hrange⟩ hrepeats.1 hrepeats.2)
      dsimp only
      rw [if_pos hempty, hstart]

/-- **A step keeps the places of regions in order.** -/
theorem Ordered.step (h : p.Ordered line)
    (hstep : p.step lib theme scope line = (.ok (some q), lib')) : q.Ordered line := by
  have hbefore : ∀ {x : Nat}, p.pos < x → openedAt x p.levels = [] := fun hlt =>
    openedAt_eq_nil fun level hmem y hy => Nat.lt_of_le_of_lt (h.opened level hmem y hy) hlt
  rcases step_stays hstep with ⟨hlt, hle, -, hlevels⟩ | hstays
  · rcases hlevels with hsub | ⟨hit, r, stop, rules, hstop, hlevels⟩
    · refine ⟨hle, fun level hmem x hx => ?_, ?_⟩
      · have := h.opened level (hsub.subset hmem) x hx
        omega
      · have hnil : (openedAt q.pos q.levels).Sublist (openedAt q.pos p.levels) :=
          openedAt_sublist hsub
        rw [hbefore hlt, List.sublist_nil] at hnil
        rw [hnil]
        exact List.nodup_nil
    · refine ⟨hle, fun level hmem x hx => ?_, ?_⟩
      · rcases openedAt_of_mem_openedLevels (hlevels ▸ hmem) with hold | hnew
        · have := h.opened level hold x hx
          omega
        · have := Option.some.inj (hx.symm.trans hnew)
          omega
      · rw [hlevels, ← hstop, openedAt_openedLevels, hbefore (hstop ▸ hlt)]
        exact List.nodup_singleton _
  · cases hstays with
    | ended hpos hlevels _ _ =>
      have hsub : q.levels.Sublist p.levels := hlevels ▸ regionLevels_sublist p
      refine ⟨hpos ▸ h.inside, fun level hmem x hx => ?_, ?_⟩
      · have := h.opened level (hsub.subset hmem) x hx
        omega
      · rw [hpos]
        exact h.nodup.sublist (openedAt_sublist hsub)
    | begun hpos hstop hlevels _ _ _ hclosed =>
      refine ⟨hpos ▸ h.inside, fun level hmem x hx => ?_, ?_⟩
      · rcases openedAt_of_mem_openedLevels (hlevels ▸ hmem) with hold | hnew
        · have := h.opened level hold x hx
          omega
        · have := Option.some.inj (hx.symm.trans hnew)
          omega
      · rw [hlevels, hpos, ← hstop, openedAt_openedLevels, hstop]
        exact List.nodup_cons.2 ⟨not_mem_openedAt hclosed, h.nodup⟩

end Stays

/-! ## How long a run can be -/

/-- What holds wherever the work on a line can have come to. -/
structure Sane (base : Library) (id : Nat) (line : List Char) (lib : Library) (p : Progress) :
    Prop where
  queried : base.Queried lib
  shaped : p.WellShaped base id fun _ => True
  ordered : p.Ordered line

section Bound

variable {base lib lib' : Library} {id : Nat} {theme : Theme} {scope : ScopeName}
  {line : List Char} {p q : Progress} {pos depth n : Nat}

/-- A step keeps a place sane. -/
theorem Sane.step (h : Sane base id line lib p) (hs : base.Sound)
    (hstep : p.step lib theme scope line = (.ok (some q), lib')) :
    Sane base id line lib' q := by
  obtain ⟨hshaped, hqueried⟩ := step_wellShaped hs h.queried trivial h.shaped hstep
  exact ⟨hqueried, hshaped, h.ordered.step hstep⟩

/-- A region that begins where it has not begun before is one more of those that can, and puts at
most two scopes on the stack. -/
theorem Sane.counts_of_begun (hq : Sane base id line lib q) (hpos : q.pos = p.pos) {hit : Match}
    {r : Region} {stop : Regex} {rules : List Rule} (hstop : hit.range.stop = p.pos)
    (hlevels : q.levels = p.openedLevels theme hit r stop rules) :
    (openedAt q.pos q.levels).length = (openedAt p.pos p.levels).length + 1 ∧
      (openedAt q.pos q.levels).length ≤ base.regionCount ∧
      q.levels.length ≤ p.levels.length + 2 := by
  refine ⟨?_, length_openedAt_le hq.shaped hq.ordered, hlevels ▸ length_openedLevels⟩
  rw [hlevels, hpos, ← hstop, openedAt_openedLevels, List.length_cons]

/-- Where the begin that is next was remembered, the next step leads on. -/
theorem halts_of_remembered (hs : base.Sound)
    (hafter : ∀ lib q, Sane base id line lib q → pos < q.pos → q.levels.length ≤ depth →
      Halts theme scope line n lib q)
    (h : Sane base id line lib p) (hpos : p.pos = pos) (hdepth : p.levels.length + 2 ≤ depth)
    (hhere : BeginsHere line p.pos p.stack)
    (hremembered : p.emptyBegin = some (p.pos, p.levels.length)) :
    Halts theme scope line (n + 1) lib p := by
  refine .of_step fun q lib' hstep => ?_
  rcases step_stays hstep with ⟨hlt, -, hlength, -⟩ | hstays
  · exact hafter lib' q (h.step hs hstep) (hpos ▸ hlt) (by omega)
  · cases hstays with
    | ended _ _ _ hnot => exact absurd hhere hnot
    | begun _ _ _ _ _ hforgotten _ => exact absurd hremembered hforgotten

/-- After a begin there are only begins of other regions, until the end of the last one of them. -/
theorem halts_of_begun (hs : base.Sound)
    (hafter : ∀ lib q, Sane base id line lib q → pos < q.pos → q.levels.length ≤ depth →
      Halts theme scope line n lib q)
    (left : Nat) (h : Sane base id line lib p) (hpos : p.pos = pos)
    (hleft : base.regionCount ≤ left + (openedAt p.pos p.levels).length)
    (hdepth : p.levels.length + 2 * left + 2 ≤ depth) {below : List Level}
    (hbelow : p.regionLevels.drop 1 = below)
    (hhere : BeginsHere line p.pos (below.map (·.scope)))
    (hremembered : p.emptyBegin = some (p.pos, below.length)) :
    Halts theme scope line (n + 2 + left) lib p := by
  induction left using Nat.strong_induction_on generalizing lib p below with
  | _ left ih =>
    have hstep : ∀ q lib', p.step lib theme scope line = (.ok (some q), lib') →
        Halts theme scope line (n + 1 + left) lib' q := by
      intro q lib' hstep
      have hq := h.step hs hstep
      rcases step_stays hstep with ⟨hlt, -, hlength, -⟩ | hstays
      · exact (hafter lib' q hq (hpos ▸ hlt) (by omega)).mono (by omega)
      · cases hstays with
        | ended hqpos hlevels hempty _ =>
          rw [hbelow] at hlevels
          have hshort : below.length ≤ p.levels.length :=
            hbelow ▸ (regionLevels_sublist p).length_le
          refine (halts_of_remembered hs hafter hq (hqpos.trans hpos) ?_ ?_ ?_).mono (by omega)
          · rw [hlevels]; omega
          · rw [hqpos]
            unfold stack
            rw [hlevels]
            exact hhere
          · rw [hempty, hqpos, hlevels]
            exact hremembered
        | begun hqpos hstop hlevels hempty hbegins _ _ =>
          -- One more region has begun at this place, so there was one left.
          obtain ⟨hcount, hmost, hgrown⟩ := hq.counts_of_begun hqpos hstop hlevels
          refine (ih (left - 1) (by omega) hq (hqpos.trans hpos) (by omega) (by omega)
            (regionLevels_openedLevels hlevels) ?_ ?_).mono (by omega)
          · rw [hqpos]
            exact hbegins
          · rw [hqpos]
            exact hempty
    exact (Halts.of_step hstep).mono (by omega)

/-- **Only finitely many steps stay at a place**: first ends, then begins, then one end. -/
theorem halts_of_arrived (hs : base.Sound)
    (hafter : ∀ lib q, Sane base id line lib q → pos < q.pos → q.levels.length ≤ depth →
      Halts theme scope line n lib q)
    (height : Nat) (h : Sane base id line lib p) (hpos : p.pos = pos)
    (hheight : p.levels.length ≤ height) (hdepth : height + 2 * base.regionCount + 2 ≤ depth) :
    Halts theme scope line (n + 3 + base.regionCount + height) lib p := by
  induction height generalizing lib p with
  | zero =>
    have hne : p.levels ≠ [] := fun hnil => h.shaped.shaped.ne_nil (by unfold stack; rw [hnil]; rfl)
    exact absurd (List.eq_nil_of_length_eq_zero (Nat.le_zero.1 hheight)) hne
  | succ height ih =>
    have hne : p.levels ≠ [] := fun hnil => h.shaped.shaped.ne_nil (by unfold stack; rw [hnil]; rfl)
    refine Halts.of_step (n := n + 3 + base.regionCount + height) fun q lib' hstep => ?_
    have hq := h.step hs hstep
    rcases step_stays hstep with ⟨hlt, -, hlength, -⟩ | hstays
    · exact (hafter lib' q hq (hpos ▸ hlt) (by omega)).mono (by omega)
    · cases hstays with
      | ended hqpos hlevels _ _ =>
        have hshort := length_regionLevels_lt hne
        exact ih hq (hqpos.trans hpos) (by rw [hlevels]; omega) (by omega)
      | begun hqpos hstop hlevels hempty hbegins _ _ =>
        obtain ⟨hcount, hmost, hgrown⟩ := hq.counts_of_begun hqpos hstop hlevels
        refine (halts_of_begun hs hafter (base.regionCount - 1) hq (hqpos.trans hpos) (by omega)
          (by omega) (regionLevels_openedLevels hlevels) ?_ ?_).mono (by omega)
        · rw [hqpos]
          exact hbegins
        · rw [hqpos]
          exact hempty

/-- How many steps a run can take with so many bytes to come and so many scopes on the stack. -/
def stepBudget (regions remaining height : Nat) : Nat :=
  (remaining + 1) * (height + regions + 3 + (regions + 1) * remaining)

/-- One more byte allows for the steps at it. -/
theorem stepBudget_succ (regions remaining height : Nat) :
    stepBudget regions (remaining + 1) height =
      stepBudget regions remaining (height + 2 * regions + 2) + 3 + regions + height := by
  unfold stepBudget
  ring

/-- **A run ends**, because the places it comes to lie one behind the other. -/
theorem halts_of_remaining (hs : base.Sound) (remaining : Nat) {height : Nat}
    (h : Sane base id line lib p) (hremaining : byteLength line ≤ p.pos + remaining)
    (hheight : p.levels.length ≤ height) :
    Halts theme scope line (stepBudget base.regionCount remaining height) lib p := by
  induction remaining generalizing lib p height with
  | zero =>
    have hlast : ∀ lib q, Sane base id line lib q → p.pos < q.pos →
        q.levels.length ≤ height + 2 * base.regionCount + 2 →
        Halts theme scope line 0 lib q := by
      intro lib q hq hlt
      have := hq.ordered.inside
      omega
    refine (halts_of_arrived hs hlast height h rfl hheight (Nat.le_refl _)).mono ?_
    unfold stepBudget
    omega
  | succ remaining ih =>
    have hafter : ∀ lib q, Sane base id line lib q → p.pos < q.pos →
        q.levels.length ≤ height + 2 * base.regionCount + 2 →
        Halts theme scope line
          (stepBudget base.regionCount remaining (height + 2 * base.regionCount + 2)) lib q :=
      fun lib q hq hlt hlength => ih hq (by omega) hlength
    rw [stepBudget_succ]
    exact halts_of_arrived hs hafter height h rfl hheight (Nat.le_refl _)

/-- The budget of a line lies within the limit on steps. -/
theorem stepBudget_le (regions length height : Nat) :
    stepBudget regions length height ≤
      8 * (length + 2) * (height + 2 * (length + 2) * (regions + 2)) := by
  unfold stepBudget
  refine Nat.mul_le_mul (by omega) ?_
  nlinarith [Nat.zero_le (length * regions)]

/-- **The work on a line ends** within the limit of steps. -/
theorem halts_start (hs : base.Sound) (hq : base.Queried lib) {state : LineState}
    (h : state.stack.Shaped base id fun _ => True) :
    Halts theme scope line (lib.stepLimit line state) lib (start state) := by
  have hsane : Sane base id line lib (start state) :=
    ⟨hq, wellShaped_start h, Ordered.start line state⟩
  have hlength : (start state).levels.length = state.stack.length := by
    simp [start]
  refine (halts_of_remaining hs (byteLength line) hsane (Nat.le_add_left _ _)
    (Nat.le_of_eq hlength)).mono ?_
  rw [(hq.agrees hs).regionCount_eq]
  exact stepBudget_le _ _ _

end Bound

end Progress

namespace Library

variable {base lib : Library} {id : Nat} {state : LineState}

/-- Going over a line is not endless. -/
theorem runLine_ne_endless (hs : base.Sound) (hq : base.Queried lib) (theme : Theme)
    (line : List Char) (h : state.stack.Shaped base id fun _ => True) :
    (lib.runLine id theme line state).1 ≠ .error .endless := by
  obtain ⟨result, hresult, hrun⟩ := Progress.halts_start hs hq h
  unfold runLine
  rw [hrun _ (Nat.le_refl _)]
  exact hresult

/-- Tokenizing a line never runs out of steps. -/
theorem tokenizeLine_ne_endless (hs : base.Sound) (hq : base.Queried lib) (theme : Theme)
    (line : List Char) (h : state.stack.Shaped base id fun _ => True) :
    (lib.tokenizeLine id theme line state).1 ≠ .error .endless := by
  obtain ⟨rules, hrules⟩ := rules_of_shaped hs hq h
  rw [tokenizeLine_fst hrules]
  split
  · simp
  · intro hline
    rcases bind_eq_error_iff.1 hline with hrun | ⟨p, -, hfinish⟩
    · exact runLine_ne_endless hs (.rules id hq) theme line h hrun
    · rcases bind_eq_error_iff.1 hfinish with hmove | ⟨q, -, hdone⟩
      · exact Progress.moveTo_ne_endless p _ hmove
      · exact absurd hdone (by simp [pure, Except.pure])

/-- **The loop over a line ends.** From every state that tokenizing leads to, in any library of
grammars and under any theme, the steps over a line come to an end within the limit that the library
sets, however much fuel they are given, and tokenizing the line does not fail for want of it. -/
theorem tokenizing_ends {lib lib' : Library} (hb : lib.Built) {id : Nat} {state : LineState}
    (hr : lib.Reaches id (fun _ => True) state) (hq : lib.Queried lib') (theme : Theme)
    (scope : ScopeName) (line : List Char) :
    Progress.Halts theme scope line (lib'.stepLimit line state) lib' (.start state) ∧
      (lib'.tokenizeLine id theme line state).1 ≠ .error .endless := by
  have hs := hb.sound
  have hshaped := hr.shaped hs
  exact ⟨Progress.halts_start hs hq hshaped, tokenizeLine_ne_endless hs hq theme line hshaped⟩

/-- A line of brackets, some of which are left open. -/
theorem tokenizing_ends_brackets :
    Progress.Halts Theme.builtin ⟨"source.brackets"⟩ "[[a]".toList
      (bracketLibrary.stepLimit "[[a]".toList (bracketStart Theme.builtin)) bracketLibrary
      (.start (bracketStart Theme.builtin)) :=
  (tokenizing_ends built_bracketLibrary (reaches_bracketStart (by decide +kernel) trivial)
    (.refl _) Theme.builtin ⟨"source.brackets"⟩ "[[a]".toList).1

end Library

end ScopePaint
