import ScopePaint.Proofs.Regex.SearchRange

/-!
# Where a search begins

A search tries one place after the other, and what an attempt finds depends on where the search began
in two ways only: through `\G`, which asks for that place, and through `\K`, which moves the start of
a match to a place that counts only behind it. An expression without `\G` that is found nowhere from
some place on is found nowhere from a later one (`Regex.search_eq_none_of_le`). Without `\K` as well,
a search that begins later finds the same match, as long as it does not begin behind that match
(`Regex.search_eq_some_of_le`).

Both rest on one invariant of the matcher: all nodes that are still to be met, now or after going
back, come from the expression, so none of them asks where the search began (`Move.Floats`).
-/

set_option autoImplicit false

namespace ScopePaint

open Text (IsBoundary byteLength byteOffset)

namespace Regex

/-! ## Expressions that do not ask -/

/-- Whether a node never asks where the search began, and moves the start of the match at most where
that is allowed. -/
def Node.floats (keeps : Bool) : Node → Bool
  | .anchor .searchStart => false
  | .keep => keeps
  | .seq a b | .alt a b | .within a b => a.floats keeps && b.floats keeps
  | .choose c a b => c.floats keeps && a.floats keeps && b.floats keeps
  | .group _ n | .loop _ _ n | .atomic n | .ahead _ n | .behind _ _ _ n | .stopBefore n =>
    n.floats keeps
  | _ => true

/-- Whether an expression never asks where the search began, calls of its groups included. -/
def Program.floats (keeps : Bool) (p : Program) : Bool :=
  p.root.floats keeps && p.groups.all fun entry => entry.2.floats keeps

/-- Whether what remains to be done never asks where the search began. -/
def Goal.floats (keeps : Bool) : Goal → Bool
  | .node n => n.floats keeps
  | .turn _ _ body _ _ => body.floats keeps
  | .chosen yes => yes.floats keeps
  | _ => true

/-- A way not taken that never asks where the search began. If the start of the match is not to be
moved, it is where the attempt began. -/
def Choice.Floats (keeps : Bool) (start : Nat) : Choice → Prop
  | .resume s goals => (∀ g ∈ goals, g.floats keeps = true) ∧ (keeps = false → s.kept = start)
  | .barrier => True

/-- The result of a step after which nothing asks where the search began. -/
def Move.Floats (keeps : Bool) (start : Nat) : Move → Prop
  | .go s goals choices =>
    (Choice.resume s goals).Floats keeps start ∧ ∀ c ∈ choices, c.Floats keeps start
  | .back choices => ∀ c ∈ choices, c.Floats keeps start

section Machine

variable {p : Program} {keeps : Bool} {start origin origin' : Nat} {g : Goal} {n : Node}
  {s s' : State} {goals : List Goal} {choices : List Choice}

/-- A call leads to a group, which floats if the expression does. -/
theorem floats_target (hp : p.floats keeps = true) (call : CallTarget) :
    (p.target call).floats keeps = true := by
  obtain ⟨hroot, hgroups⟩ := Bool.and_eq_true_iff.1 hp
  unfold Program.target
  split
  · exact hroot
  · split
    · rename_i entry hentry
      exact List.all_eq_true.1 hgroups entry (List.mem_of_find?_eq_some hentry)
    · rfl
  · rfl

/-- Reading a character does not move the start of the match. -/
theorem kept_next {c : Char} (h : s.next = some (c, s')) : s'.kept = s.kept := by
  unfold State.next at h
  split at h
  · exact absurd h (by simp)
  · split at h
    · exact absurd h (by simp)
    · obtain ⟨-, rfl⟩ := Prod.mk.inj (Option.some.inj h)
      rfl

/-- Reading a text does not move the start of the match. -/
theorem kept_readText {ignoreCase : Bool} {text : List Char}
    (h : s.readText ignoreCase text = some s') : s'.kept = s.kept := by
  induction text generalizing s with
  | nil =>
    obtain rfl := Option.some.inj h
    rfl
  | cons c text ih =>
    rw [State.readText] at h
    split at h
    · exact absurd h (by simp)
    · rename_i hnext
      split at h
      · exact (ih h).trans (kept_next hnext)
      · exact absurd h (by simp)

/-- The choices below a barrier were there before. -/
theorem mem_of_mem_belowBarrier {c : Choice} (h : c ∈ belowBarrier choices) : c ∈ choices := by
  induction choices with
  | nil => exact h
  | cons first rest ih =>
    cases first with
    | barrier => exact List.mem_cons_of_mem _ h
    | resume s goals => exact List.mem_cons_of_mem _ (ih h)

/-- Going on with the last choice keeps to the choices. -/
theorem floats_enter (h : ∀ c ∈ choices, c.Floats keeps start) :
    (Move.enter choices).Floats keeps start := by
  unfold Move.enter
  split
  · exact List.forall_mem_cons.1 h
  · exact h

/-- The ways to look behind meet the body first. -/
theorem floats_ways {last : List Goal} (cursors : List Cursor) (hn : n.floats keeps = true)
    (hlast : ∀ g ∈ last, g.floats keeps = true) (hkept : keeps = false → s.kept = start) :
    ∀ c ∈ cursors.map (fun c =>
      Choice.resume { s with cursor := c } (.node n :: .reach s.cursor.index :: last)),
      c.Floats keeps start := by
  intro c hc
  obtain ⟨cursor, -, rfl⟩ := List.mem_map.1 hc
  refine ⟨?_, hkept⟩
  simp only [List.forall_mem_cons]
  exact ⟨hn, rfl, hlast⟩

/-- A part of the text that must not hold something is met behind a search for that. -/
theorem floats_tempered {absent : Node} (h : absent.floats keeps = true) :
    (Goal.node (.atomic (tempered absent))).floats keeps = true := by
  simp only [Goal.floats, Node.floats, tempered, h, Bool.and_self]

section Step

variable (hchoices : ∀ c ∈ choices, c.Floats keeps start)

include hchoices

/-- Going on with other goals and a start that was not moved. -/
theorem floats_go (hgoals : ∀ g ∈ goals, g.floats keeps = true)
    (hkept : keeps = false → s.kept = start) : (Move.go s goals choices).Floats keeps start :=
  ⟨⟨hgoals, hkept⟩, hchoices⟩

/-- A turn of a loop, or what comes behind the loop, stays in the expression. -/
theorem floats_beginTurn {bounds : Bounds} {watched : List Nat} {count : Nat}
    (hn : n.floats keeps = true) (h : (Choice.resume s goals).Floats keeps start) :
    (beginTurn bounds watched n count s goals choices).Floats keeps start := by
  obtain ⟨hgoals, hkept⟩ := h
  have hagain : ∀ entry, ∀ g ∈ Goal.node n :: .turn bounds watched n (count + 1) entry :: goals,
      g.floats keeps = true := by
    intro entry
    simp only [List.forall_mem_cons]
    exact ⟨hn, hn, hgoals⟩
  unfold beginTurn
  split
  · exact ⟨⟨hagain _, hkept⟩, hchoices⟩
  · split
    · exact ⟨⟨hgoals, hkept⟩, hchoices⟩
    · dsimp only
      split
      · exact ⟨⟨hagain _, hkept⟩, List.forall_mem_cons.2 ⟨⟨hgoals, hkept⟩, hchoices⟩⟩
      · exact ⟨⟨hgoals, hkept⟩, List.forall_mem_cons.2 ⟨⟨hagain _, hkept⟩, hchoices⟩⟩

/-- What comes behind a turn of a loop stays in the expression. -/
theorem floats_endTurn {bounds : Bounds} {watched : List Nat} {count : Nat}
    {entry : Option (Nat × List Capture)} (hn : n.floats keeps = true)
    (h : (Choice.resume s goals).Floats keeps start) :
    (endTurn bounds watched n count entry s goals choices).Floats keeps start := by
  have hbegin : (beginTurn bounds watched n count s goals choices).Floats keeps start :=
    floats_beginTurn hchoices hn h
  unfold endTurn
  split
  · exact hbegin
  · split
    · split
      · exact hbegin
      · exact ⟨h, hchoices⟩
      · exact hchoices
    · exact hbegin

/-- A node that reads one character goes on behind it, or goes back. -/
theorem floats_read (accepts : Char → Prop) [DecidablePred accepts]
    (h : (Choice.resume s goals).Floats keeps start) :
    (match s.next with
      | some (d, s) => if accepts d then Move.go s goals choices else Move.back choices
      | none => Move.back choices).Floats keeps start := by
  split
  · rename_i hnext
    split
    · exact floats_go hchoices h.1 fun hkeeps => (kept_next hnext).trans (h.2 hkeeps)
    · exact hchoices
  · exact hchoices

/-- A look-ahead meets its body in front of the goals, or in place of them if it is negated. -/
theorem floats_stepNode_ahead {negated : Bool} (hn : n.floats keeps = true)
    (h : (Choice.resume s goals).Floats keeps start) :
    (stepNode p origin (.ahead negated n) s goals choices).Floats keeps start := by
  obtain ⟨hgoals, hkept⟩ := h
  cases negated with
  | false =>
    refine floats_go (List.forall_mem_cons.2 ⟨trivial, hchoices⟩) ?_ hkept
    simp only [List.forall_mem_cons]
    exact ⟨hn, rfl, rfl, hgoals⟩
  | true =>
    refine floats_go ?_ ?_ hkept
    · simp only [List.forall_mem_cons]
      exact ⟨trivial, ⟨hgoals, hkept⟩, hchoices⟩
    · simp only [List.forall_mem_cons]
      exact ⟨hn, rfl, fun g hg => absurd hg List.not_mem_nil⟩

/-- A look-behind meets its body from one of the places behind. -/
theorem floats_stepNode_behind {negated : Bool} {shortest : Nat} {longest : Option Nat}
    (hn : n.floats keeps = true) (h : (Choice.resume s goals).Floats keeps start) :
    (stepNode p origin (.behind negated shortest longest n) s goals choices).Floats keeps start := by
  obtain ⟨hgoals, hkept⟩ := h
  have hways : ∀ last : List Goal, (∀ g ∈ last, g.floats keeps = true) → _ := fun last hlast =>
    floats_ways (s := s) (behindStarts shortest longest s.cursor) hn hlast hkept
  cases negated with
  | false =>
    refine floats_enter (List.forall_mem_append.2 ⟨hways _ ?_, ?_⟩)
    · exact List.forall_mem_cons.2 ⟨rfl, hgoals⟩
    · exact List.forall_mem_cons.2 ⟨trivial, hchoices⟩
  | true =>
    refine floats_enter (List.forall_mem_append.2 ⟨hways [.refuse] ?_, ?_⟩)
    · exact List.forall_mem_cons.2 ⟨rfl, fun g hg => absurd hg List.not_mem_nil⟩
    · simp only [List.forall_mem_cons]
      exact ⟨trivial, ⟨hgoals, hkept⟩, hchoices⟩

/-- **Meeting a node leads to nodes of the same expression.** -/
theorem floats_stepNode (hp : p.floats keeps = true) (hn : n.floats keeps = true)
    (h : (Choice.resume s goals).Floats keeps start) :
    (stepNode p origin n s goals choices).Floats keeps start := by
  obtain ⟨hgoals, hkept⟩ := h
  have hgo : ∀ s' : State, s'.kept = s.kept → (Move.go s' goals choices).Floats keeps start :=
    fun s' hs' => ⟨⟨hgoals, fun hkeeps => hs'.trans (hkept hkeeps)⟩, hchoices⟩
  cases n with
  | empty => exact hgo s rfl
  | fail => exact hchoices
  | literal c => exact floats_read hchoices (c = ·) ⟨hgoals, hkept⟩
  | set set => exact floats_read hchoices (set.contains · = true) ⟨hgoals, hkept⟩
  | anchor a =>
    simp only [stepNode]
    split
    · exact hgo s rfl
    · exact hchoices
  | seq a b =>
    obtain ⟨ha, hb⟩ := Bool.and_eq_true_iff.1 hn
    refine floats_go hchoices ?_ hkept
    simp only [List.forall_mem_cons]
    exact ⟨ha, hb, hgoals⟩
  | alt a b =>
    obtain ⟨ha, hb⟩ := Bool.and_eq_true_iff.1 hn
    have hother : (Choice.resume s (.node b :: goals)).Floats keeps start :=
      ⟨List.forall_mem_cons.2 ⟨hb, hgoals⟩, hkept⟩
    exact floats_go (List.forall_mem_cons.2 ⟨hother, hchoices⟩)
      (List.forall_mem_cons.2 ⟨ha, hgoals⟩) hkept
  | loop bounds watched body => exact floats_beginTurn hchoices hn ⟨hgoals, hkept⟩
  | group i body =>
    refine floats_go hchoices ?_ hkept
    simp only [List.forall_mem_cons]
    exact ⟨hn, rfl, hgoals⟩
  | atomic body =>
    refine floats_go (List.forall_mem_cons.2 ⟨trivial, hchoices⟩) ?_ hkept
    simp only [List.forall_mem_cons]
    exact ⟨hn, rfl, hgoals⟩
  | ahead negated body => exact floats_stepNode_ahead hchoices hn ⟨hgoals, hkept⟩
  | behind negated shortest longest body => exact floats_stepNode_behind hchoices hn ⟨hgoals, hkept⟩
  | backref ref =>
    simp only [stepNode]
    split
    · rename_i hread
      obtain ⟨text, -, htext⟩ := List.exists_of_findSome?_eq_some hread
      exact hgo _ (kept_readText htext)
    · exact hchoices
  | tested ref =>
    simp only [stepNode]
    split
    · exact hchoices
    · exact hgo s rfl
  | choose condition yes no =>
    simp only [Node.floats, Bool.and_eq_true] at hn
    obtain ⟨⟨hcondition, hyes⟩, hno⟩ := hn
    have hother : (Choice.resume s (.node no :: goals)).Floats keeps start :=
      ⟨List.forall_mem_cons.2 ⟨hno, hgoals⟩, hkept⟩
    refine floats_go ?_ ?_ hkept
    · simp only [List.forall_mem_cons]
      exact ⟨trivial, hother, hchoices⟩
    · simp only [List.forall_mem_cons]
      exact ⟨hcondition, hyes, hgoals⟩
  | call target =>
    refine floats_go hchoices ?_ hkept
    simp only [List.forall_mem_cons]
    exact ⟨floats_target hp target, rfl, hgoals⟩
  | keep =>
    -- The start is moved, so this was allowed.
    refine floats_go hchoices hgoals fun hkeeps => ?_
    simp only [Node.floats] at hn
    exact absurd (hkeeps.symm.trans hn) (by simp)
  | within absent body =>
    obtain ⟨habsent, hbody⟩ := Bool.and_eq_true_iff.1 hn
    refine floats_go hchoices ?_ hkept
    simp only [List.forall_mem_cons]
    exact ⟨floats_tempered habsent, rfl, hbody, rfl, hgoals⟩
  | stopBefore absent =>
    refine floats_go hchoices ?_ hkept
    simp only [List.forall_mem_cons]
    exact ⟨floats_tempered hn, rfl, hgoals⟩
  | clearStop => exact hgo _ rfl

/-- **A step leads to nodes of the same expression.** -/
theorem floats_step (hp : p.floats keeps = true) (hg : g.floats keeps = true)
    (h : (Choice.resume s goals).Floats keeps start) :
    (step p origin g s goals choices).Floats keeps start := by
  have hbelow : ∀ c ∈ belowBarrier choices, c.Floats keeps start := fun c hc =>
    hchoices c (mem_of_mem_belowBarrier hc)
  have hother : ∀ c ∈ (belowBarrier choices).drop 1, c.Floats keeps start := fun c hc =>
    hbelow c (List.mem_of_mem_drop hc)
  obtain ⟨hgoals, hkept⟩ := h
  cases g with
  | node n => exact floats_stepNode hchoices hp hg ⟨hgoals, hkept⟩
  | closeGroup i start' => exact ⟨⟨hgoals, hkept⟩, hchoices⟩
  | turn bounds watched body count entry => exact floats_endTurn hchoices hg ⟨hgoals, hkept⟩
  | commit => exact ⟨⟨hgoals, hkept⟩, hbelow⟩
  | returnTo cursor => exact ⟨⟨hgoals, hkept⟩, hchoices⟩
  | reach index =>
    simp only [step]
    split
    · exact ⟨⟨hgoals, hkept⟩, hchoices⟩
    · exact hchoices
  | refuse => exact hother
  | chosen yes => exact ⟨⟨List.forall_mem_cons.2 ⟨hg, hgoals⟩, hkept⟩, hother⟩
  | limitHere start' => exact ⟨⟨hgoals, hkept⟩, hchoices⟩
  | setLimit limit => exact ⟨⟨hgoals, hkept⟩, hchoices⟩
  | leave => exact ⟨⟨hgoals, hkept⟩, hchoices⟩

end Step

/-- Only a node that asks where the search began can tell one beginning from another. -/
theorem step_origin (hg : g.floats keeps = true) (origin origin' : Nat) :
    step p origin g s goals choices = step p origin' g s goals choices := by
  cases g with
  | node n =>
    cases n with
    | anchor a =>
      have hsame : a.holds origin s.cursor = a.holds origin' s.cursor := by
        cases a with
        | searchStart => exact absurd hg (by simp [Goal.floats, Node.floats])
        | _ => rfl
      simp only [step, stepNode, hsame]
    | ahead negated body => cases negated <;> rfl
    | _ => rfl
  | _ => rfl

/-- Going back leads to one of the ways not taken. -/
theorem floats_backtrack (hchoices : ∀ c ∈ choices, c.Floats keeps start) {next : List Choice}
    (h : backtrack choices = some (s, goals, next)) :
    (Choice.resume s goals).Floats keeps start ∧ ∀ c ∈ next, c.Floats keeps start := by
  induction choices with
  | nil => exact absurd h (by simp [backtrack])
  | cons first rest ih =>
    obtain ⟨hfirst, hrest⟩ := List.forall_mem_cons.1 hchoices
    cases first with
    | barrier => exact ih hrest h
    | resume s' goals' =>
      simp only [backtrack, Option.some.injEq, Prod.mk.injEq] at h
      obtain ⟨rfl, rfl, rfl⟩ := h
      exact ⟨hfirst, hrest⟩

/-- **A run of the matcher does not depend on where the search began**, and keeps the start of the
match where it was if it is not to be moved. -/
theorem run_floats (hp : p.floats keeps = true) (fuel retries : Nat)
    (h : (Choice.resume s goals).Floats keeps start)
    (hchoices : ∀ c ∈ choices, c.Floats keeps start) (origin origin' : Nat) :
    run p origin fuel retries s goals choices = run p origin' fuel retries s goals choices ∧
      ∀ s', run p origin fuel retries s goals choices = .ok (some s') → keeps = false →
        s'.kept = start := by
  induction fuel generalizing retries s goals choices with
  | zero => exact ⟨rfl, fun s' hs' => absurd hs' (by simp [run])⟩
  | succ fuel ih =>
    cases goals with
    | nil =>
      refine ⟨rfl, fun s' hs' hkeeps => ?_⟩
      simp only [run, Except.ok.injEq, Option.some.injEq] at hs'
      exact hs' ▸ h.2 hkeeps
    | cons g goals =>
      obtain ⟨hg, hgoals⟩ := List.forall_mem_cons.1 h.1
      have hmove : (step p origin g s goals choices).Floats keeps start :=
        floats_step hchoices hp hg ⟨hgoals, h.2⟩
      rw [run, run, step_origin hg origin' origin]
      revert hmove
      cases step p origin g s goals choices with
      | go s goals choices => exact fun hmove => ih retries hmove.1 hmove.2
      | back choices =>
        intro hmove
        dsimp only
        cases retries with
        | zero => exact ⟨rfl, fun s' hs' => absurd hs' (by simp)⟩
        | succ retries =>
          cases hback : backtrack choices with
          | none => exact ⟨rfl, fun s' hs' => absurd hs' (by simp)⟩
          | some way =>
            obtain ⟨s, goals, choices⟩ := way
            obtain ⟨hway, hnext⟩ := floats_backtrack hmove hback
            exact ih retries hway hnext

/-- An attempt does not depend on where the search began, and ends with the start of the match where
it began if that is not to be moved. -/
theorem matchAt_floats (hp : p.floats keeps = true) (origin origin' : Nat) (c : Cursor) :
    p.matchAt origin c = p.matchAt origin' c ∧
      ∀ s, p.matchAt origin c = .ok (some s) → keeps = false → s.kept = c.index := by
  obtain ⟨hroot, -⟩ := Bool.and_eq_true_iff.1 hp
  have hgoals : ∀ g ∈ [Goal.node p.root], g.floats keeps = true :=
    List.forall_mem_cons.2 ⟨hroot, fun g hg => absurd hg List.not_mem_nil⟩
  exact run_floats hp _ _ ⟨hgoals, fun _ => rfl⟩ (fun c hc => absurd hc List.not_mem_nil) origin
    origin'

end Machine

/-! ## Searches -/

section Search

variable {p : Program} {keeps : Bool} {cs before after front back : List Char}
  {origin origin' index count : Nat} {s : State} {m : Match}

/-- Where the search began decides where a match starts, but not whether there is one. -/
theorem matchOf_eq_none_iff :
    matchOf cs origin index count s = none ↔ s.cursor.index < index := by
  unfold matchOf
  dsimp only
  split
  · rename_i hle
    simp only [reduceCtorEq, false_iff]
    omega
  · rename_i hle
    simp only [true_iff]
    omega

/-- A match whose start was not moved starts where the attempt began. -/
theorem matchOf_of_kept (hkept : s.kept = index) (h : matchOf cs origin index count s = some m) :
    m.range.start = byteOffset cs index ∧ matchOf cs origin' index count s = some m := by
  unfold matchOf at h ⊢
  dsimp only at h ⊢
  split at h
  · rename_i hle
    have hfirst : ∀ origin, (if origin ≤ s.kept then min s.kept s.cursor.index else index) =
        index := by
      intro origin
      rw [hkept, Nat.min_eq_left hle, ite_self]
    rw [hfirst] at h
    rw [if_pos hle, hfirst]
    obtain rfl := Option.some.inj h
    exact ⟨rfl, rfl⟩
  · exact absurd h (by simp)

/-- The first attempt that is no failure decides a search. -/
theorem searchFrom_cons_eq_ok_iff {found : Option Match} (c : Char) :
    searchFrom p cs origin before index (c :: after) = .ok found ↔
      (∃ m, attempt p cs origin ⟨before, c :: after, index⟩ = .ok (some m) ∧ found = some m) ∨
        attempt p cs origin ⟨before, c :: after, index⟩ = .ok none ∧
          searchFrom p cs origin (c :: before) (index + 1) after = .ok found := by
  rw [searchFrom]
  cases attempt p cs origin ⟨before, c :: after, index⟩ with
  | error e => simp
  | ok result =>
    cases result with
    | none => simp
    | some m => simp [eq_comm]

/-- Whether there is a match does not depend on where the search began. -/
theorem attempt_eq_none_iff (hp : p.floats keeps = true) (origin origin' : Nat) (c : Cursor) :
    attempt p cs origin c = .ok none ↔ attempt p cs origin' c = .ok none := by
  unfold attempt
  rw [(matchAt_floats hp origin origin' c).1]
  simp only [map_eq_ok_iff, Option.bind_eq_none_iff, matchOf_eq_none_iff]

/-- An attempt that does not move the start of the match finds one that starts where it began,
wherever the search began. -/
theorem attempt_eq_some (hp : p.floats false = true) (origin' : Nat) {c : Cursor}
    (h : attempt p cs origin c = .ok (some m)) :
    m.range.start = byteOffset cs c.index ∧ attempt p cs origin' c = .ok (some m) := by
  obtain ⟨result, hresult, hm⟩ := map_eq_ok_iff.1 h
  obtain ⟨s, rfl, hs⟩ := Option.bind_eq_some_iff.1 hm
  obtain ⟨hsame, hkept⟩ := matchAt_floats hp origin origin' c
  obtain ⟨hstart, hother⟩ := matchOf_of_kept (hkept s hresult rfl) hs
  refine ⟨hstart, map_eq_ok_iff.2 ⟨some s, hsame.symm.trans hresult, hother⟩⟩

/-- If nothing is found, nothing is found with other beginnings either. -/
theorem searchFrom_eq_none_iff (hp : p.floats keeps = true) (origin origin' : Nat) :
    searchFrom p cs origin before index after = .ok none ↔
      searchFrom p cs origin' before index after = .ok none := by
  induction after generalizing before index with
  | nil => exact attempt_eq_none_iff hp origin origin' _
  | cons c after ih =>
    simp only [searchFrom_cons_eq_ok_iff, attempt_eq_none_iff hp origin origin', ih, reduceCtorEq,
      and_false, exists_false, false_or]

/-- If something is found, it is found with other beginnings as well. -/
theorem searchFrom_eq_some (hp : p.floats false = true)
    (h : searchFrom p cs origin before index after = .ok (some m)) :
    searchFrom p cs origin' before index after = .ok (some m) := by
  induction after generalizing before index with
  | nil => exact (attempt_eq_some hp origin' h).2
  | cons c after ih =>
    rw [searchFrom_cons_eq_ok_iff] at h ⊢
    rcases h with ⟨found, hfound, hm⟩ | ⟨hnone, hrest⟩
    · exact Or.inl ⟨found, (attempt_eq_some hp origin' hfound).2, hm⟩
    · exact Or.inr ⟨(attempt_eq_none_iff hp origin origin' _).1 hnone, ih hrest⟩

/-- The places behind some text are tried if no place before is a match. -/
theorem searchFrom_append_eq_none
    (h : searchFrom p cs origin before index (front ++ back) = .ok none) :
    searchFrom p cs origin (front.reverse ++ before) (index + front.length) back = .ok none := by
  induction front generalizing before index with
  | nil => exact h
  | cons c front ih =>
    rw [List.cons_append, searchFrom_cons_eq_ok_iff] at h
    rcases h with ⟨m, -, hm⟩ | ⟨-, h⟩
    · exact absurd hm (by simp)
    · have hrest := ih h
      rw [List.reverse_cons, List.append_assoc, List.singleton_append, List.length_cons]
      rwa [Nat.add_assoc, Nat.add_comm 1] at hrest

/-- A match that starts behind some text is found by the search from there. -/
theorem searchFrom_append_eq_some (hp : p.floats false = true)
    (hcs : cs = before.reverse ++ (front ++ back)) (hindex : index = before.length)
    (hstart : byteOffset cs (index + front.length) ≤ m.range.start)
    (h : searchFrom p cs origin before index (front ++ back) = .ok (some m)) :
    searchFrom p cs origin (front.reverse ++ before) (index + front.length) back =
      .ok (some m) := by
  induction front generalizing before index with
  | nil => exact h
  | cons c front ih =>
    have hrest : index + (c :: front).length = index + 1 + front.length := by
      rw [List.length_cons]
      omega
    rw [hrest] at hstart ⊢
    rw [List.cons_append, searchFrom_cons_eq_ok_iff] at h
    have hcs' : cs = (c :: before).reverse ++ (front ++ back) := by
      rw [hcs, List.reverse_cons, List.append_assoc]
      rfl
    rw [List.reverse_cons, List.append_assoc, List.singleton_append]
    rcases h with ⟨m', h, hm⟩ | ⟨-, h⟩
    · -- An earlier match would start at its own place, in front of the one that was found.
      obtain rfl := Option.some.inj hm
      have hat : m.range.start = byteOffset cs index :=
        (attempt_eq_some hp origin h).1
      have hlt : byteOffset cs index < byteOffset cs (index + 1) := by
        have hback : byteOffset cs index = byteLength before.reverse := by
          rw [hcs, hindex, ← List.length_reverse, Text.byteOffset_append]
        have hnext : byteOffset cs (index + 1) = byteLength (c :: before).reverse := by
          rw [hcs', hindex, ← List.length_cons (a := c), ← List.length_reverse,
            Text.byteOffset_append]
        have hpos := c.utf8Size_pos
        rw [hback, hnext, List.reverse_cons, Text.byteLength_append, Text.byteLength_cons]
        omega
      have hmono := Text.byteOffset_mono cs (Nat.le_add_right (index + 1) front.length)
      omega
    · exact ih hcs' (by rw [hindex, List.length_cons]) hstart h

end Search

section Offsets

variable {r : Regex} {keeps : Bool} {cs : List Char} {pos pos' : Nat} {m : Match}

/-- A boundary behind another one cuts a text into three parts, from which both searches begin. -/
theorem search_between (hpos : IsBoundary cs pos) (hpos' : IsBoundary cs pos') (hle : pos ≤ pos') :
    ∃ before front back, cs = before ++ (front ++ back) ∧
      byteLength (before ++ front) = pos' ∧
      r.search cs pos =
        searchFrom r.program cs before.length before.reverse before.length (front ++ back) ∧
      r.search cs pos' = searchFrom r.program cs (before.length + front.length)
        (front.reverse ++ before.reverse) (before.length + front.length) back := by
  obtain ⟨before, after, hcs, rfl⟩ := hpos
  obtain ⟨before', back, hcs', rfl⟩ := hpos'
  obtain ⟨front, rfl, -⟩ := Text.exists_front_of_append_eq (hcs.symm.trans hcs') hle
  have hwhole : cs = before ++ (front ++ back) := by rw [hcs', List.append_assoc]
  refine ⟨before, front, back, hwhole, rfl, ?_, ?_⟩
  · have hsplit := Text.splitAtByte?_append before (front ++ back)
    rw [search, hwhole, hsplit]
  · have hsplit := Text.splitAtByte?_append (before ++ front) back
    rw [search, hcs', hsplit]
    dsimp only
    rw [List.reverse_append, List.length_append]

/-- **What is not found from some place on is not found from a later one**, if the expression does
not ask where the search began. -/
theorem search_eq_none_of_le (hr : r.program.floats keeps = true) (hpos : IsBoundary cs pos)
    (hpos' : IsBoundary cs pos') (hle : pos ≤ pos') (h : r.search cs pos = .ok none) :
    r.search cs pos' = .ok none := by
  obtain ⟨before, front, back, hcs, -, hfirst, hlater⟩ := search_between (r := r) hpos hpos' hle
  rw [hfirst] at h
  rw [hlater, searchFrom_eq_none_iff hr _ before.length]
  exact searchFrom_append_eq_none h

/-- **A search that begins later, but not behind the match, finds the same match**, if the
expression neither asks where the search began nor moves the start of the match. -/
theorem search_eq_some_of_le (hr : r.program.floats false = true) (hpos : IsBoundary cs pos)
    (hpos' : IsBoundary cs pos') (hle : pos ≤ pos') (hstart : pos' ≤ m.range.start)
    (h : r.search cs pos = .ok (some m)) : r.search cs pos' = .ok (some m) := by
  obtain ⟨before, front, back, hcs, hlength, hfirst, hlater⟩ :=
    search_between (r := r) hpos hpos' hle
  rw [hfirst] at h
  rw [hlater]
  apply searchFrom_eq_some hr
  have hat : byteOffset cs (before.length + front.length) = pos' := by
    rw [hcs, ← List.append_assoc, ← List.length_append, Text.byteOffset_append, hlength]
  refine searchFrom_append_eq_some hr ?_ List.length_reverse.symm (by omega) h
  rw [List.reverse_reverse, hcs]

end Offsets

end Regex

end ScopePaint
