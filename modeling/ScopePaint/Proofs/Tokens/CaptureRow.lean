import ScopePaint.Proofs.Regex.SearchRange
import ScopePaint.Proofs.Tokens.Row
import ScopePaint.Tokens.Captures

/-!
# The tokens of a match form a row

The groups of a match may lie anywhere between two characters: inside of each other, across each
other's ends, or outside of the match. The tokens that are made of them lead from the start of the
match to its end all the same (`captureTokens_row`). What carries this is that the groups are taken
in the order of their starts, and that the ends of the groups that are open never grow towards the
innermost one (`Nested`).
-/

set_option autoImplicit false

namespace ScopePaint

open Text (IsBoundary byteLength)

/-! ## The order of groups -/

namespace NamedGroup

/-- Groups are ordered by start, then from long to short, then by number. -/
theorem notAfter_iff {g h : NamedGroup} : g.notAfter h = true ↔
    g.range.start < h.range.start ∨ g.range.start = h.range.start ∧
      (h.range.stop < g.range.stop ∨ g.range.stop = h.range.stop ∧ g.index ≤ h.index) := by
  simp [notAfter]

/-- Groups are opened by their starts. -/
theorem start_le_of_notAfter {g h : NamedGroup} (hle : g.notAfter h = true) :
    g.range.start ≤ h.range.start := by
  have := notAfter_iff.1 hle
  omega

/-- The order of groups carries over. -/
theorem notAfter_trans (g h k : NamedGroup) (hgh : g.notAfter h = true)
    (hhk : h.notAfter k = true) : g.notAfter k = true := by
  rw [notAfter_iff] at hgh hhk ⊢
  omega

/-- Of two groups one does not come after the other. -/
theorem notAfter_total (g h : NamedGroup) : (g.notAfter h || h.notAfter g) = true := by
  rw [Bool.or_eq_true, notAfter_iff, notAfter_iff]
  omega

/-- The groups of a match that get a scope come in the order of their starts. -/
theorem pairwise_ofCaptures (m : Match) (captures : Captures) (number : Nat) :
    (ofCaptures m captures number).Pairwise fun g h => g.range.start ≤ h.range.start :=
  (List.pairwise_mergeSort notAfter_trans notAfter_total _).imp start_le_of_notAfter

/-- A group that gets a scope is a group of the match, is not empty and lies in the match. -/
theorem of_mem_ofCaptures {m : Match} {captures : Captures} {number : Nat} {g : NamedGroup}
    (h : g ∈ ofCaptures m captures number) :
    (∃ i, m.group i = some g.range) ∧ m.range.start ≤ g.range.start ∧
      g.range.start < g.range.stop ∧ g.range.stop ≤ m.range.stop := by
  rw [ofCaptures, List.mem_mergeSort, List.mem_filterMap] at h
  obtain ⟨⟨⟨index, name⟩, i⟩, -, h⟩ := h
  dsimp only at h
  split at h
  · exact absurd h (by simp)
  · obtain ⟨range, hrange, h⟩ := Option.bind_eq_some_iff.1 h
    split at h
    · rename_i hfits
      obtain rfl := Option.some.inj h
      simp only [fits, Text.Span.isEmpty, Bool.and_eq_true, Bool.not_eq_true',
        decide_eq_false_iff_not, decide_eq_true_eq] at hfits
      exact ⟨⟨index, hrange⟩, hfits.1.2, Nat.lt_of_not_le hfits.1.1, hfits.2⟩
    · exact absurd h (by simp)

end NamedGroup

/-! ## Open groups -/

/-- The ends of open groups, from the innermost one outwards, lie between `lo` and `hi` in this
order, and between characters. -/
def Nested (line : List Char) : Nat → Nat → List OpenGroup → Prop
  | lo, hi, [] => lo ≤ hi
  | lo, hi, g :: rest => lo ≤ g.stop ∧ IsBoundary line g.stop ∧ Nested line g.stop hi rest

section Open

variable {line : List Char} {lo hi cursor limit stop : Nat} {opened : List OpenGroup}

/-- Nested groups are nested in a larger part. -/
theorem Nested.mono (h : Nested line lo hi opened) {lo' : Nat} (hle : lo' ≤ lo) :
    Nested line lo' hi opened := by
  cases opened with
  | nil => exact Nat.le_trans hle h
  | cons g rest => exact ⟨Nat.le_trans hle h.1, h.2⟩

/-- A token leads from its start to its stop. -/
theorem tokenOf_row {a b : Nat} (hle : a ≤ b) (hb : IsBoundary line b) (stack : ScopeStack) :
    IsRow line a b (tokenOf a b stack) := by
  unfold tokenOf
  split
  · rename_i hlt
    exact isRow_singleton.2 ⟨rfl, hlt, hb, rfl⟩
  · exact isRow_nil.2 (by omega)

/-- Closing the groups that end before a place leads to the last of their ends, and leaves the
groups that end behind the place. -/
theorem closeGroups_row (h : Nested line cursor hi opened) (hcursor : cursor ≤ limit)
    (hlimit : limit ≤ hi) :
    IsRow line cursor (closeGroups limit cursor opened).2.1 (closeGroups limit cursor opened).1 ∧
      (closeGroups limit cursor opened).2.1 ≤ limit ∧
      Nested line limit hi (closeGroups limit cursor opened).2.2 := by
  induction opened generalizing cursor with
  | nil => exact ⟨isRow_nil.2 rfl, hcursor, hlimit⟩
  | cons g rest ih =>
    obtain ⟨hle, hbound, hrest⟩ := h
    rw [closeGroups]
    split
    · rename_i hclose
      obtain ⟨hrow, hend, hleft⟩ := ih hrest hclose
      exact ⟨(tokenOf_row hle hbound g.stack).append hrow, hend, hleft⟩
    · rename_i hkeep
      exact ⟨isRow_nil.2 rfl, hcursor, by omega, hbound, hrest⟩

/-- Closing all groups leads to the last of their ends. -/
theorem closeAll_row (h : Nested line cursor hi opened) :
    IsRow line cursor (closeAll cursor opened).2 (closeAll cursor opened).1 ∧
      (closeAll cursor opened).2 ≤ hi := by
  induction opened generalizing cursor with
  | nil => exact ⟨isRow_nil.2 rfl, h⟩
  | cons g rest ih =>
    obtain ⟨hle, hbound, hrest⟩ := h
    obtain ⟨hrow, hend⟩ := ih hrest
    rw [closeAll]
    exact ⟨(tokenOf_row hle hbound g.stack).append hrow, hend⟩

/-! ## All groups -/

/-- **The tokens of groups lead to the end of the match.** A group that reaches behind the end of
the group it begins in is passed over, so the groups that are open stay nested. -/
theorem groupTokens_row (theme : Theme) (base : ScopeStack) {groups : List NamedGroup}
    (hstop : IsBoundary line stop) (hopen : Nested line cursor stop opened)
    (hsorted : groups.Pairwise fun g h => g.range.start ≤ h.range.start)
    (hgroups : ∀ g ∈ groups, cursor ≤ g.range.start ∧ g.range.start < g.range.stop ∧
      g.range.stop ≤ stop ∧ IsBoundary line g.range.start ∧ IsBoundary line g.range.stop) :
    IsRow line cursor stop (groupTokens theme base stop cursor opened groups) := by
  induction groups generalizing cursor opened with
  | nil =>
    obtain ⟨hrow, hend⟩ := closeAll_row hopen
    rw [groupTokens]
    exact hrow.append (tokenOf_row hend hstop base)
  | cons g rest ih =>
    obtain ⟨hfirst, hsorted⟩ := List.pairwise_cons.1 hsorted
    obtain ⟨⟨hcursor, hlt, hle, hstart, hend⟩, hrest⟩ := List.forall_mem_cons.1 hgroups
    obtain ⟨hclosed, hbefore, hleft⟩ := closeGroups_row hopen hcursor (by omega)
    have hbehind : ∀ h ∈ rest, g.range.start ≤ h.range.start ∧ h.range.start < h.range.stop ∧
        h.range.stop ≤ stop ∧ IsBoundary line h.range.start ∧ IsBoundary line h.range.stop :=
      fun h hmem => ⟨hfirst h hmem, (hrest h hmem).2⟩
    rw [groupTokens]
    refine hclosed.append ?_
    split
    · exact ih (hleft.mono hbefore) hsorted
        fun h hmem => ⟨Nat.le_trans hbefore (hbehind h hmem).1, (hbehind h hmem).2⟩
    · rename_i hinside
      refine (tokenOf_row hbefore hstart _).append (ih ⟨Nat.le_of_lt hlt, hend, ?_⟩ hsorted hbehind)
      -- The group that is open around this one ends where it does, or behind that.
      cases hopened : (closeGroups g.range.start cursor opened).2.2 with
      | nil => exact hle
      | cons outer others =>
        rw [hopened] at hleft hinside
        obtain ⟨-, hbound, hothers⟩ := hleft
        simp only [List.head?_cons, Option.any_some, decide_eq_true_eq] at hinside
        exact ⟨Nat.le_of_not_lt hinside, hbound, hothers⟩

/-- **The tokens of a match lead from its start to its end**; a match of nothing has none. -/
theorem captureTokens_row (theme : Theme) {m : Match} {offset : Nat} (hm : m.Fits line offset)
    (stack : ScopeStack) (captures : Captures) (number : Nat) :
    IsRow line m.range.start m.range.stop
      (captureTokens theme (byteLength line) m stack captures number) := by
  have hordered := hm.ordered
  have hinside := hm.inside
  unfold captureTokens
  split
  · rename_i hempty
    simp only [Text.Span.isEmpty, decide_eq_true_eq] at hempty
    exact isRow_nil.2 (by omega)
  · refine groupTokens_row theme _ hm.stop hordered
      (NamedGroup.pairwise_ofCaptures m captures number) fun g hg => ?_
    obtain ⟨⟨i, hi⟩, hstart, hlt, hstop⟩ := NamedGroup.of_mem_ofCaptures hg
    exact ⟨hstart, hlt, hstop, hm.groups i g.range hi⟩

end Open

end ScopePaint
