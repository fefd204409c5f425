import ScopePaint.Proofs.Regex.SearchStart
import ScopePaint.Proofs.Tokens.Steps

/-!
# Which match is next

Of the matches that can be next, the one that begins first is taken, and of those that begin together
the first in their order (`Found.first_of_next?`). The end of the innermost region is the first in
order, so another match is taken only if it begins in front of the end (`Found.eq_or_lt_of_ofStop?`).

Looking again from a later place, in front of the match that was found, finds that match again, if no
expression that is searched for asks where the search began (`Found.next?_of_le`).
-/

set_option autoImplicit false

namespace ScopePaint

open Text (IsBoundary byteLength)

namespace Found

variable {line : List Char} {pos pos' : Nat} {stack : ScopeStack} {found other : Found}
  {all : List Found}

/-! ## The first of the earliest matches -/

/-- The last of many matches is compared with the first match before it. -/
theorem earliest_append_singleton (all : List Found) (f : Found) :
    earliest (all ++ [f]) = better (earliest all) f := by
  simp only [earliest, List.foldl_append, List.foldl_cons, List.foldl_nil]

/-- There is no first match only where there are no matches. -/
theorem earliest_eq_none_iff : earliest all = none ↔ all = [] := by
  constructor
  · intro h
    induction all using List.reverseRecOn with
    | nil => rfl
    | append_singleton all f ih =>
      rw [earliest_append_singleton] at h
      unfold better at h
      split at h
      · exact absurd h (by simp)
      · split at h <;> exact absurd h (by simp)
  · rintro rfl
    rfl

/-- **The match that is taken begins before all that stand in front of it**, and not behind any that
stands behind it. -/
theorem first_of_earliest (h : earliest all = some found) :
    ∃ front back, all = front ++ found :: back ∧
      (∀ f ∈ front, found.hit.range.start < f.hit.range.start) ∧
      ∀ f ∈ back, found.hit.range.start ≤ f.hit.range.start := by
  induction all using List.reverseRecOn generalizing found with
  | nil => exact absurd h (by simp [earliest])
  | append_singleton all f ih =>
    rw [earliest_append_singleton] at h
    cases hbest : earliest all with
    | none =>
      rw [hbest] at h
      obtain rfl := Option.some.inj h
      rw [earliest_eq_none_iff.1 hbest]
      exact ⟨[], [], rfl, by simp, by simp⟩
    | some best =>
      obtain ⟨front, back, rfl, hfront, hback⟩ := ih hbest
      rw [hbest] at h
      simp only [better] at h
      split at h
      · -- The new match does not begin before the best one so far.
        rename_i hle
        obtain rfl := Option.some.inj h
        refine ⟨front, back ++ [f], by simp, hfront, fun g hg => ?_⟩
        rcases List.mem_append.1 hg with hg | hg
        · exact hback g hg
        · exact List.mem_singleton.1 hg ▸ hle
      · rename_i hnot
        obtain rfl := Option.some.inj h
        refine ⟨front ++ best :: back, [], rfl, fun g hg => ?_, by simp⟩
        rcases List.mem_append.1 hg with hg | hg
        · have := hfront g hg
          omega
        · rcases List.mem_cons.1 hg with rfl | hg
          · omega
          · have := hback g hg
            omega

/-- The next match is one of the candidates, the first of those that begin earliest. -/
theorem first_of_next? (h : next? line pos stack = .ok (some found)) :
    ∃ front back, candidates line pos stack = .ok (front ++ found :: back) ∧
      (∀ f ∈ front, found.hit.range.start < f.hit.range.start) ∧
      ∀ f ∈ back, found.hit.range.start ≤ f.hit.range.start := by
  obtain ⟨all, hall, hearliest⟩ := map_eq_ok_iff.1 h
  obtain ⟨front, back, rfl, hfront, hback⟩ := first_of_earliest hearliest
  exact ⟨front, back, hall, hfront, hback⟩

/-- No candidate begins before the next match. -/
theorem le_of_next? (h : next? line pos stack = .ok (some found))
    (hall : candidates line pos stack = .ok all) (hother : other ∈ all) :
    found.hit.range.start ≤ other.hit.range.start := by
  obtain ⟨front, back, hsplit, hfront, hback⟩ := first_of_next? h
  obtain rfl := Except.ok.inj (hall.symm.trans hsplit)
  rcases List.mem_append.1 hother with hother | hother
  · exact Nat.le_of_lt (hfront other hother)
  · rcases List.mem_cons.1 hother with rfl | hother
    · exact Nat.le_refl _
    · exact hback other hother

/-- **The end of the innermost region goes first**: what is taken in its place begins before it. -/
theorem eq_or_lt_of_ofStop? (h : next? line pos stack = .ok (some found))
    (hstop : ofStop? line pos stack = .ok (some other)) :
    found = other ∨ found.hit.range.start < other.hit.range.start := by
  obtain ⟨front, back, hsplit, hfront, -⟩ := first_of_next? h
  obtain ⟨stop, others, hstop', -, hparts⟩ := candidates_eq_ok_iff.1 hsplit
  obtain rfl := Except.ok.inj (hstop.symm.trans hstop')
  rw [Option.toList_some, List.singleton_append] at hparts
  cases front with
  | nil => exact Or.inl (List.cons.inj hparts).1.symm
  | cons first front =>
    obtain ⟨rfl, -⟩ := List.cons.inj hparts
    exact Or.inr (hfront other List.mem_cons_self)

/-- Without a next match there is no end either. -/
theorem ofStop?_of_next? (h : next? line pos stack = .ok none) :
    ofStop? line pos stack = .ok none := by
  obtain ⟨all, hall, hearliest⟩ := map_eq_ok_iff.1 h
  obtain rfl := earliest_eq_none_iff.1 hearliest
  obtain ⟨stop, others, hstop, -, hparts⟩ := candidates_eq_ok_iff.1 hall
  rw [List.append_eq_nil_iff, Option.toList_eq_nil_iff] at hparts
  rw [hstop, hparts.1]

/-! ## Looking again from a later place -/

/-- The expressions that are searched for where a scope is innermost. -/
def searched (s : Scope) : List Regex := s.stop.toList ++ s.rules.map (·.regex)

/-- No expression that is searched for around a place asks where the search began or moves the start
of a match. -/
def Floating (stack : ScopeStack) : Prop :=
  ∀ s ∈ stack, ∀ r ∈ searched s, r.program.floats false = true

instance (stack : ScopeStack) : Decidable (Floating stack) :=
  inferInstanceAs (Decidable (∀ s ∈ stack, ∀ r ∈ searched s, r.program.floats false = true))

/-- The innermost region is one of the scopes. -/
theorem mem_of_innermostRegion? {s : Scope} (h : innermostRegion? stack = some s) : s ∈ stack := by
  cases stack with
  | nil => exact absurd h (by simp [innermostRegion?])
  | cons top below =>
    cases below with
    | nil =>
      obtain rfl := Option.some.inj h
      exact List.mem_cons_self
    | cons below rest =>
      have hs := Option.some.inj h
      split at hs
      · exact List.mem_cons_of_mem _ (hs ▸ List.mem_cons_self)
      · exact hs ▸ List.mem_cons_self

section Later

variable (hpos : IsBoundary line pos) (hpos' : IsBoundary line pos') (hle : pos ≤ pos')

include hpos hpos' hle

/-- A search that begins later, but not behind a match, has the same outcome. -/
theorem search_of_le {r : Regex} (hr : r.program.floats false = true) {result : Option Match}
    (h : r.search line pos = .ok result) (hbehind : ∀ hit ∈ result, pos' ≤ hit.range.start) :
    r.search line pos' = .ok result := by
  cases result with
  | none => exact Regex.search_eq_none_of_le hr hpos hpos' hle h
  | some hit => exact Regex.search_eq_some_of_le hr hpos hpos' hle (hbehind hit rfl) h

/-- What is found of a region's end is found from a later place as well. -/
theorem ofStop?_of_le (hfloating : Floating stack) {result : Option Found}
    (h : ofStop? line pos stack = .ok result) (hbehind : ∀ f ∈ result, pos' ≤ f.hit.range.start) :
    ofStop? line pos' stack = .ok result := by
  unfold ofStop? at h ⊢
  cases hregion : (innermostRegion? stack).bind (·.stop) with
  | none =>
    rw [hregion] at h
    exact h
  | some stop =>
    rw [hregion] at h
    obtain ⟨s, hs, hsstop⟩ := Option.bind_eq_some_iff.1 hregion
    have hfloats := hfloating s (mem_of_innermostRegion? hs) stop
      (List.mem_append_left _ (Option.mem_toList.2 hsstop))
    obtain ⟨hit?, hsearch, rfl⟩ := map_eq_ok_iff.1 h
    have hlater := search_of_le hpos hpos' hle hfloats hsearch fun hit hhit =>
      hbehind _ (Option.mem_map_of_mem _ hhit)
    exact map_eq_ok_iff.2 ⟨hit?, hlater, rfl⟩

/-- What is found of a rule is found from a later place as well. -/
theorem ofRule?_of_le {rule : Rule} (hfloats : rule.regex.program.floats false = true)
    {result : Option Found} (h : ofRule? line pos rule = .ok result)
    (hbehind : ∀ f ∈ result, pos' ≤ f.hit.range.start) : ofRule? line pos' rule = .ok result := by
  obtain ⟨hit?, hsearch, rfl⟩ := map_eq_ok_iff.1 h
  have hlater := search_of_le hpos hpos' hle hfloats hsearch fun hit hhit =>
    hbehind _ (Option.mem_map_of_mem _ hhit)
  exact map_eq_ok_iff.2 ⟨hit?, hlater, rfl⟩

/-- **Looking again from a later place finds the same match**, unless that place is the end of the
line, where no rules are tried. -/
theorem next?_of_le (hfloating : Floating stack) (hstart : pos' ≤ found.hit.range.start)
    (hinside : pos' < byteLength line) (h : next? line pos stack = .ok (some found)) :
    next? line pos' stack = .ok (some found) := by
  obtain ⟨all, hall, hearliest⟩ := map_eq_ok_iff.1 h
  have hbehind : ∀ f ∈ all, pos' ≤ f.hit.range.start :=
    fun f hf => Nat.le_trans hstart (le_of_next? h hall hf)
  have hrules : rulesAt line pos' stack = rulesAt line pos stack := by
    unfold rulesAt
    rw [if_pos hinside, if_pos (by omega)]
  obtain ⟨stop, others, hstop, hothers, hparts⟩ := candidates_eq_ok_iff.1 hall
  have hlater : ofStop? line pos' stack = .ok stop :=
    ofStop?_of_le hpos hpos' hle hfloating hstop fun f hf =>
      hbehind f ((mem_candidates_iff hall).2 (Or.inl (hf ▸ hstop)))
  have hagain : (rulesAt line pos' stack).map (ofRule? line pos') = others.map .ok := by
    rw [hrules, ← hothers, List.map_inj_left]
    intro rule hrule
    obtain ⟨result, -, hresult⟩ := List.mem_map.1 (hothers ▸ List.mem_map_of_mem hrule)
    obtain ⟨-, top, below, rfl, hmem⟩ := mem_rulesAt hrule
    have hfloats := hfloating top List.mem_cons_self rule.regex
      (List.mem_append_right _ (List.mem_map_of_mem hmem))
    rw [← hresult]
    exact ofRule?_of_le hpos hpos' hle hfloats hresult.symm fun f hf =>
      hbehind f ((mem_candidates_iff hall).2 (Or.inr ⟨rule, hrule, hf ▸ hresult.symm⟩))
  exact map_eq_ok_iff.2 ⟨all, candidates_eq_ok_iff.2 ⟨stop, others, hlater, hagain, hparts⟩,
    hearliest⟩

end Later

end Found

end ScopePaint
