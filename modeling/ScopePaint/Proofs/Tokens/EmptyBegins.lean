import ScopePaint.Proofs.Tokens.EndOfLine
import ScopePaint.Proofs.Tokens.Termination

/-!
# How often a region begins with a match of nothing at a place

A begin that was found from its own place is remembered, and its region is open, until the work goes
on behind that place: at first the region is among those that are open and began there, and when the
last of these has ended, the place and the depth are those of the begin that was remembered
(`Progress.Spent`). In both cases the same region does not begin there again.

A begin that was found from an earlier place escapes this, because what is found from its own place
may be something else. So a region begins with a match of nothing at most twice at a place
(`Progress.count_emptyBegins_le`), and at most once if no expression asks where the search began
(`Progress.nodup_emptyBegins`). Where an end asks for it, a region does begin twice
(`Library.begins_twice_reopened`).
-/

set_option autoImplicit false

namespace ScopePaint

open Text (IsBoundary byteLength)

namespace Progress

/-! ## The begins of a run -/

/-- The region that begins next with a match of nothing, and where it begins. -/
def emptyBegin? (line : List Char) (p : Progress) : Option (RegionPlace × Nat) :=
  match Found.next? line p.pos p.stack with
  | .ok (some ⟨hit, .region r _⟩) =>
    if hit.range.isEmpty && !{ p with pos := hit.range.start }.repeats r hit then
      some (r.place, hit.range.start)
    else none
  | _ => none

/-- The places from which the steps of a run go on. -/
def trail (theme : Theme) (scope : ScopeName) (line : List Char) :
    Nat → Library → Progress → List Progress
  | 0, _, _ => []
  | fuel + 1, lib, p =>
    match p.step lib theme scope line with
    | (.ok (some q), lib) => p :: trail theme scope line fuel lib q
    | _ => []

/-- The regions that begin with matches of nothing in a run, and where, in their order. -/
def emptyBegins (theme : Theme) (scope : ScopeName) (line : List Char) (fuel : Nat) (lib : Library)
    (p : Progress) : List (RegionPlace × Nat) :=
  (trail theme scope line fuel lib p).filterMap (emptyBegin? line)

section Begins

variable {lib lib' : Library} {theme : Theme} {scope : ScopeName} {line : List Char}
  {p q : Progress} {place : RegionPlace} {x fuel : Nat}

/-- A region begins next with a match of nothing where its begin is found, it is not open there, and
no begin is remembered there. -/
theorem of_emptyBegin? (h : p.emptyBegin? line = some (place, x)) :
    ∃ hit r ps, Found.next? line p.pos p.stack = .ok (some ⟨hit, .region r ps⟩) ∧ r.place = place ∧
      hit.range = ⟨x, x⟩ ∧ { p with pos := x }.repeats r hit = false ∧
      p.emptyBegin ≠ some (x, p.levels.length) ∧ place ∉ openedAt x p.levels := by
  unfold emptyBegin? at h
  split at h
  · rename_i hit r ps hnext
    split at h
    · rename_i hnew
      obtain ⟨hempty, hrepeats⟩ := Bool.and_eq_true_iff.1 hnew
      obtain ⟨rfl, rfl⟩ := Prod.mk.inj (Option.some.inj h)
      rw [Bool.not_eq_true'] at hrepeats
      have hrange : hit.range = ⟨hit.range.start, hit.range.start⟩ := by
        have hordered := (Found.fits_of_next? hnext).ordered
        simp only [Text.Span.isEmpty, decide_eq_true_eq] at hempty
        exact congrArg₂ Text.Span.mk rfl (Nat.le_antisymm hempty hordered)
      have hapart := hrepeats
      simp only [repeats, hempty, Bool.true_and, Bool.or_eq_false_iff, beq_eq_false_iff_ne] at hapart
      exact ⟨hit, r, ps, hnext, rfl, hrange, hrepeats, hapart.1, not_mem_openedAt hapart.2⟩
    · exact absurd h (by simp)
  · exact absurd h (by simp)

/-- A begin is not found in front of the place that the search began at. -/
theorem le_of_emptyBegin? (h : p.emptyBegin? line = some (place, x)) : p.pos ≤ x := by
  obtain ⟨hit, r, ps, hnext, -, hrange, -⟩ := of_emptyBegin? h
  have hafter := (Found.fits_of_next? hnext).after
  rwa [hrange] at hafter

/-- **What a begin with a match of nothing leaves**: the region is open on top of the levels that
were there before, and the begin is remembered. -/
theorem begun_of_emptyBegin? (h : p.emptyBegin? line = some (place, x))
    (hstep : p.step lib theme scope line = (.ok (some q), lib')) :
    q.pos = x ∧ q.regionLevels.drop 1 = p.levels ∧ place ∈ openedAt x q.levels ∧
      q.emptyBegin = some (x, p.levels.length) := by
  obtain ⟨hit, r, ps, hnext, rfl, hrange, hrepeats, -⟩ := of_emptyBegin? h
  obtain ⟨found, m, hfound, hmove, hwent⟩ := step_went hstep
  obtain rfl := Option.some.inj (Except.ok.inj (hnext.symm.trans hfound))
  obtain ⟨l, -, rfl⟩ := moveTo_ok hmove
  have hpos : max p.pos hit.range.start = x := by
    rw [hrange]
    exact Nat.max_eq_right (le_of_emptyBegin? h)
  dsimp only at hwent
  rw [hpos] at hwent
  cases hwent with
  | passed hagain hc => exact absurd (hrepeats.symm.trans hagain) (by simp)
  | @begun _ _ stop rules _ _ _ _ _ =>
    have hstop : hit.range.stop = x := by rw [hrange]
    have hempty : hit.range.isEmpty = true := by simp [hrange, Text.Span.isEmpty]
    refine ⟨hstop, ?_, ?_, ?_⟩
    · exact regionLevels_openedLevels
        (rfl : _ = openedLevels theme { p with pos := x, line := l } hit r stop rules)
    · show r.place ∈ openedAt x (openedLevels theme { p with pos := x, line := l } hit r stop rules)
      rw [← hstop, openedAt_openedLevels]
      exact List.mem_cons_self
    · simp only [hempty, if_true]

/-! ## Places where a region does not begin again -/

/-- A region has begun with a match of nothing at `x` and does not begin there again: the work has
gone on behind that place or to the end of the line, where no rules are tried; or the region is still
open and what would come after the innermost one of those that began there is remembered; or all of
them have ended, and what comes next is remembered. -/
inductive Spent (line : List Char) (x : Nat) (place : RegionPlace) (p : Progress) : Prop
  | passed (h : x < p.pos)
  | done (h : byteLength line ≤ p.pos)
  | isOpen (hpos : p.pos = x) (hplace : place ∈ openedAt x p.levels)
      (hbelow : BeginsHere line x ((p.regionLevels.drop 1).map (·.scope)))
      (hremembered : p.emptyBegin = some (x, (p.regionLevels.drop 1).length))
  | closed (hpos : p.pos = x) (hhere : BeginsHere line x p.stack)
      (hremembered : p.emptyBegin = some (x, p.levels.length))

/-- No region begins at the end of the line if the search began there. -/
theorem lt_of_emptyBegin? (h : p.emptyBegin? line = some (place, x)) :
    p.pos < byteLength line := by
  obtain ⟨hit, r, ps, hnext, -⟩ := of_emptyBegin? h
  rcases Found.of_next? hnext with hstop | ⟨top, below, rule, -, -, hinside, -⟩
  · exact absurd (Found.of_ofStop? hstop).1 (by simp)
  · exact hinside

/-- A place that is spent is not begun at again. -/
theorem Spent.emptyBegin?_ne (h : Spent line x place p) :
    p.emptyBegin? line ≠ some (place, x) := by
  intro hbegin
  obtain ⟨hit, r, ps, -, -, -, -, hforgotten, hclosed⟩ := of_emptyBegin? hbegin
  cases h with
  | passed h => exact absurd (le_of_emptyBegin? hbegin) (Nat.not_le.2 h)
  | done h => exact absurd (lt_of_emptyBegin? hbegin) (Nat.not_lt.2 h)
  | isOpen _ hplace _ _ => exact hclosed hplace
  | closed _ _ hremembered => exact hforgotten hremembered

/-- A step does not lead back. -/
theorem step_le (hstep : p.step lib theme scope line = (.ok (some q), lib')) : p.pos ≤ q.pos := by
  rcases step_stays hstep with ⟨hlt, -⟩ | hstays
  · exact Nat.le_of_lt hlt
  · cases hstays with
    | ended hpos _ _ _ => exact Nat.le_of_eq hpos.symm
    | begun hpos _ _ _ _ _ _ => exact Nat.le_of_eq hpos.symm

/-- **Whatever a step does, a region that has begun at a place does not begin there again.** -/
theorem Spent.step (h : Spent line x place p)
    (hstep : p.step lib theme scope line = (.ok (some q), lib')) : Spent line x place q := by
  have hle := step_le hstep
  cases h with
  | passed h => exact .passed (by omega)
  | done h => exact .done (by omega)
  | isOpen hpos hplace hbelow hremembered =>
    rcases step_stays hstep with ⟨hlt, -⟩ | hstays
    · exact .passed (by omega)
    · cases hstays with
      | ended hqpos hlevels hempty _ =>
        -- The innermost region has ended, so its begin would be next.
        refine .closed (hqpos.trans hpos) ?_ ?_
        · unfold stack
          rw [hlevels]
          exact hbelow
        · rw [hempty, hlevels]
          exact hremembered
      | begun hqpos hstop hlevels hempty hhere _ _ =>
        refine .isOpen (hqpos.trans hpos) ?_ ?_ ?_
        · rw [hlevels, ← hpos, ← hstop, openedAt_openedLevels, hstop, hpos]
          exact List.mem_cons_of_mem _ hplace
        · rw [regionLevels_openedLevels hlevels, ← hpos]
          exact hhere
        · rw [regionLevels_openedLevels hlevels, ← hpos]
          exact hempty
  | closed hpos hhere hremembered =>
    rcases step_stays hstep with ⟨hlt, -⟩ | hstays
    · exact .passed (by omega)
    · rw [← hpos] at hhere hremembered
      cases hstays with
      | ended _ _ _ hnot => exact absurd hhere hnot
      | begun _ _ _ _ _ hforgotten _ => exact absurd hremembered hforgotten

/-- After a begin that is found from its own place as well, the region does not begin there again. -/
theorem Spent.of_begun (h : p.emptyBegin? line = some (place, x))
    (hhere : BeginsHere line x p.stack)
    (hstep : p.step lib theme scope line = (.ok (some q), lib')) : Spent line x place q := by
  obtain ⟨hpos, hlevels, hplace, hremembered⟩ := begun_of_emptyBegin? h hstep
  refine .isOpen hpos hplace ?_ ?_
  · rw [hlevels]
    exact hhere
  · rw [hlevels]
    exact hremembered

/-- A region that is begun empty at the place begins there. -/
theorem beginsHere_of_emptyBegin? (h : p.emptyBegin? line = some (place, p.pos)) :
    BeginsHere line p.pos p.stack := by
  obtain ⟨hit, r, ps, hnext, -, hrange, -⟩ := of_emptyBegin? h
  exact ⟨_, r, ps, hnext, rfl, hrange⟩

/-- If no expression asks where the search began, no begin is found again. -/
theorem Spent.of_floating (h : p.emptyBegin? line = some (place, x))
    (hfloating : Found.Floating p.stack) (hpos : IsBoundary line p.pos)
    (hstep : p.step lib theme scope line = (.ok (some q), lib')) : Spent line x place q := by
  by_cases hinside : x < byteLength line
  · obtain ⟨hit, r, ps, hnext, -, hrange, -⟩ := of_emptyBegin? h
    have hstart : hit.range.start = x := by rw [hrange]
    have hx : IsBoundary line x := hstart ▸ (Found.fits_of_next? hnext).start
    have hagain := Found.next?_of_le hpos hx (le_of_emptyBegin? h) hfloating
      (Nat.le_of_eq hstart.symm) hinside hnext
    exact .of_begun h ⟨_, r, ps, hagain, rfl, hrange⟩ hstep
  · obtain ⟨hqpos, -⟩ := begun_of_emptyBegin? h hstep
    exact .done (by omega)

/-! ## All begins of a run -/

/-- The trail is a step and the trail behind it. -/
theorem trail_succ (hstep : p.step lib theme scope line = (.ok (some q), lib')) :
    trail theme scope line (fuel + 1) lib p = p :: trail theme scope line fuel lib' q := by
  rw [trail, hstep]

/-- The empty begins are that of a step and those behind it. -/
theorem emptyBegins_succ (hstep : p.step lib theme scope line = (.ok (some q), lib')) :
    emptyBegins theme scope line (fuel + 1) lib p =
      (p.emptyBegin? line).toList ++ emptyBegins theme scope line fuel lib' q := by
  unfold emptyBegins
  rw [trail_succ hstep, List.filterMap_cons]
  cases p.emptyBegin? line <;> rfl

/-- What holds of the begins of every run that comes to an end at once, and of a longer one if it
does of what comes after its first step. -/
theorem emptyBegins_induction {motive : Nat → Library → Progress → Prop}
    (nil : ∀ fuel lib p, emptyBegins theme scope line fuel lib p = [] → motive fuel lib p)
    (cons : ∀ fuel lib p q lib', p.step lib theme scope line = (.ok (some q), lib') →
      motive fuel lib' q → motive (fuel + 1) lib p) (fuel : Nat) (lib : Library) (p : Progress) :
    motive fuel lib p := by
  induction fuel generalizing lib p with
  | zero => exact nil 0 lib p rfl
  | succ fuel ih =>
    cases hstep : p.step lib theme scope line with
    | mk result lib' =>
      match result with
      | .ok (some q) => exact cons fuel lib p q lib' hstep (ih lib' q)
      | .ok none => exact nil _ lib p (by rw [emptyBegins, trail, hstep]; rfl)
      | .error e => exact nil _ lib p (by rw [emptyBegins, trail, hstep]; rfl)

/-- A place that is spent is not among the empty begins. -/
theorem Spent.not_mem_emptyBegins (h : Spent line x place p) (fuel : Nat) (lib : Library) :
    (place, x) ∉ emptyBegins theme scope line fuel lib p := by
  induction fuel, lib, p using emptyBegins_induction with
  | nil fuel lib p hnil =>
    rw [hnil]
    exact List.not_mem_nil
  | cons fuel lib p q lib' hstep ih =>
    rw [emptyBegins_succ hstep, List.mem_append]
    rintro (hfirst | hlater)
    · exact h.emptyBegin?_ne (Option.mem_toList.1 hfirst)
    · exact ih (h.step hstep) hlater

/-- From a place on, a region begins there at most once. -/
theorem count_emptyBegins_le_one (hle : x ≤ p.pos) (fuel : Nat) (lib : Library) :
    (emptyBegins theme scope line fuel lib p).count (place, x) ≤ 1 := by
  induction fuel, lib, p using emptyBegins_induction with
  | nil fuel lib p hnil =>
    rw [hnil]
    exact Nat.zero_le _
  | cons fuel lib p q lib' hstep ih =>
    rw [emptyBegins_succ hstep, List.count_append]
    by_cases hbegin : p.emptyBegin? line = some (place, x)
    · have hpos : p.pos = x := Nat.le_antisymm (le_of_emptyBegin? hbegin) hle
      have hhere : BeginsHere line x p.stack := hpos ▸ beginsHere_of_emptyBegin? (hpos ▸ hbegin)
      have hlater : (place, x) ∉ emptyBegins theme scope line fuel lib' q :=
        (Spent.of_begun hbegin hhere hstep).not_mem_emptyBegins fuel lib'
      rw [hbegin, List.count_eq_zero_of_not_mem hlater, Option.toList_some, List.count_singleton_self]
    · have hfirst : (p.emptyBegin? line).toList.count (place, x) = 0 :=
        List.count_eq_zero_of_not_mem fun hmem => hbegin (Option.mem_toList.1 hmem)
      have hrest := ih (Nat.le_trans hle (step_le hstep))
      omega

/-- **A region begins with a match of nothing at most twice at a place**: once found from an earlier
place, and once from there. -/
theorem count_emptyBegins_le (begun : RegionPlace × Nat) (fuel : Nat) (lib : Library)
    (p : Progress) : (emptyBegins theme scope line fuel lib p).count begun ≤ 2 := by
  obtain ⟨place, x⟩ := begun
  induction fuel, lib, p using emptyBegins_induction with
  | nil fuel lib p hnil =>
    rw [hnil]
    exact Nat.zero_le _
  | cons fuel lib p q lib' hstep ih =>
    rw [emptyBegins_succ hstep, List.count_append]
    by_cases hbegin : p.emptyBegin? line = some (place, x)
    · have hqpos : x ≤ q.pos := Nat.le_of_eq (begun_of_emptyBegin? hbegin hstep).1.symm
      have hrest : (emptyBegins theme scope line fuel lib' q).count (place, x) ≤ 1 :=
        count_emptyBegins_le_one hqpos fuel lib'
      rw [hbegin, Option.toList_some, List.count_singleton_self]
      omega
    · have hfirst : (p.emptyBegin? line).toList.count (place, x) = 0 :=
        List.count_eq_zero_of_not_mem fun hmem => hbegin (Option.mem_toList.1 hmem)
      omega

/-- **No region begins twice with a match of nothing at a place** if no expression asks where the
search began. -/
theorem nodup_emptyBegins (fuel : Nat) (lib : Library) (p : Progress)
    (hpos : IsBoundary line p.pos)
    (hfloating : ∀ r ∈ trail theme scope line fuel lib p, Found.Floating r.stack) :
    (emptyBegins theme scope line fuel lib p).Nodup := by
  induction fuel, lib, p using emptyBegins_induction with
  | nil fuel lib p hnil =>
    rw [hnil]
    exact List.nodup_nil
  | cons fuel lib p q lib' hstep ih =>
    rw [trail_succ hstep, List.forall_mem_cons] at hfloating
    have hrest := ih (step_boundary hstep) hfloating.2
    rw [emptyBegins_succ hstep]
    cases hbegin : p.emptyBegin? line with
    | none => exact hrest
    | some begun =>
      obtain ⟨place, x⟩ := begun
      have hspent : Spent line x place q := .of_floating hbegin hfloating.1 hpos hstep
      exact List.nodup_cons.2 ⟨hspent.not_mem_emptyBegins fuel lib', hrest⟩

end Begins

end Progress

namespace Library

/-! ## Lines -/

/-- The places from which the steps over a line go on. There are none on a line that is too long. -/
def trail (lib : Library) (id : Nat) (theme : Theme) (line : List Char) (state : LineState) :
    List Progress :=
  match lib.rules id with
  | (.error _, _) => []
  | (.ok _, lib) =>
    if lib.options.maxLineLength < byteLength line then []
    else
      Progress.trail theme (((lib.grammar? id).map (·.scopeName)).getD ⟨""⟩) line
        (lib.stepLimit line state) lib (.start state)

/-- The regions that begin with matches of nothing on a line, and where, in their order. -/
def emptyBegins (lib : Library) (id : Nat) (theme : Theme) (line : List Char)
    (state : LineState) : List (RegionPlace × Nat) :=
  (lib.trail id theme line state).filterMap (Progress.emptyBegin? line)

/-- A line is either not gone over at all or from its start. -/
theorem trail_eq_nil_or (lib : Library) (id : Nat) (theme : Theme) (line : List Char)
    (state : LineState) : lib.trail id theme line state = [] ∨
    ∃ (lib' : Library) (scope : ScopeName) (fuel : Nat),
      lib.trail id theme line state = Progress.trail theme scope line fuel lib' (.start state) := by
  unfold trail
  split
  · exact Or.inl rfl
  · split
    · exact Or.inl rfl
    · exact Or.inr ⟨_, _, _, rfl⟩

/-- **How often a region begins with a match of nothing at a place of a line**: at most twice, and at
most once if none of the expressions that are searched for on the way asks where the search began. -/
theorem emptyBegins_bounded (lib : Library) (id : Nat) (theme : Theme) (line : List Char)
    (state : LineState) :
    (∀ begun, (lib.emptyBegins id theme line state).count begun ≤ 2) ∧
      ((∀ p ∈ lib.trail id theme line state, Found.Floating p.stack) →
        (lib.emptyBegins id theme line state).Nodup) := by
  unfold emptyBegins
  rcases trail_eq_nil_or lib id theme line state with hnil | ⟨lib', scope, fuel, htrail⟩
  · rw [hnil]
    exact ⟨fun _ => Nat.zero_le _, fun _ => List.nodup_nil⟩
  · rw [htrail]
    exact ⟨fun begun => Progress.count_emptyBegins_le begun fuel lib' (.start state),
      fun hfloating => Progress.nodup_emptyBegins fuel lib' (.start state)
        (Text.isBoundary_zero line) hfloating⟩

/-- A grammar file with a region that begins and ends with nothing in front of a b. -/
def lookaheadRecord : GrammarRecord where
  scopeName := "source.lookahead"
  patterns := [{ beginSource := some "(?=b)", endSource := some "(?=b)" }]

/-- The region begins once in front of the b, and then the b is consumed. -/
theorem emptyBegins_bounded_lookahead :
    (∀ p ∈ (ofRecord lookaheadRecord).trail 0 Theme.builtin "ab".toList (startOf lookaheadRecord),
      Found.Floating p.stack) ∧
    (ofRecord lookaheadRecord).emptyBegins 0 Theme.builtin "ab".toList (startOf lookaheadRecord) ≠
      [] ∧
    ((ofRecord lookaheadRecord).emptyBegins 0 Theme.builtin "ab".toList
      (startOf lookaheadRecord)).Nodup := by
  have hfloating : ∀ p ∈ (ofRecord lookaheadRecord).trail 0 Theme.builtin "ab".toList
      (startOf lookaheadRecord), Found.Floating p.stack := by decide +kernel
  have hbounded := emptyBegins_bounded (ofRecord lookaheadRecord) 0 Theme.builtin "ab".toList
    (startOf lookaheadRecord)
  exact ⟨hfloating, by decide +kernel, hbounded.2 hfloating⟩

/-- A grammar file with an outer region, which ends where its end was looked for from if an a stands
in front, and an inner one that begins with nothing in front of a b, also outside of the outer one.
What ends the inner region depends on whether its begin was found from its own place. -/
def reopenedRecord : GrammarRecord where
  scopeName := "source.reopened"
  patterns := [
    { name := some "meta.outer", beginSource := some "<", endSource := some "\\G(?<=a)",
      patterns := some [{ includeText := some "#inner" }] },
    { includeText := some "#inner" }]
  repository := [("inner",
    { name := some "meta.inner", beginSource := some "\\G(?=(b))|(?=b)",
      endSource := some "\\1" })]

/-- **A region begins twice with a match of nothing** in front of the b. The first begin is found from
the place before and has ended at once; then the outer region ends there, so that neither the depth
is the one that was remembered nor the inner region is still open. -/
theorem begins_twice_reopened :
    (ofRecord reopenedRecord).Reaches 0 (fun _ => True) (startOf reopenedRecord) ∧
      ((ofRecord reopenedRecord).tokenizeLine 0 Theme.builtin "<ab".toList
        (startOf reopenedRecord)).1.isOk = true ∧
      (ofRecord reopenedRecord).emptyBegins 0 Theme.builtin "<ab".toList
        (startOf reopenedRecord) = [(⟨0, 1⟩, 2), (⟨0, 1⟩, 2)] :=
  ⟨reaches_startOf (by decide +kernel), by decide +kernel, by decide +kernel⟩

end Library

end ScopePaint
