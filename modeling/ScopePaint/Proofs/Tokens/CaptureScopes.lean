import ScopePaint.Proofs.Sorting
import ScopePaint.Proofs.Tokens.ByteScopes
import ScopePaint.Theme.Default

/-!
# The scopes of groups

The groups of a match may lie across each other's ends. They are considered in order, by their
starts, then those that end later first, then by their numbers in the expression; a group that
begins inside of one kept before and ends behind it is dropped (`NamedGroup.kept`). So two groups
that are kept lie inside of each other or apart (`NamedGroup.pairwise_kept`), and the stack of open
groups at a place is made of the groups kept so far that reach behind the place
(`groupTokens_carries`). Each byte of the match is left inside of the scopes of the whole match and
of the groups that are kept and contain it, whatever the ranges of the groups are
(`TokenLine.captures_scope_kept_groups`).
-/

set_option autoImplicit false

namespace ScopePaint

/-- Scopes with given numbers and names, opened one after another inside of a stack. -/
def ScopeStack.opening (theme : Theme) (stack : ScopeStack) (labels : List (Nat × ScopeName)) :
    ScopeStack :=
  labels.foldl (fun around label => Scope.inside theme label.1 (some label.2) around :: around)
    stack

/-- The numbers and names of the scopes for the whole match. -/
def wholeLabels (captures : Captures) (number : Nat) : List (Nat × ScopeName) :=
  (captures.zipIdx number).filterMap fun entry =>
    if entry.1.1 = 0 then some (entry.2, entry.1.2) else none

/-! ## The groups that are kept -/

namespace NamedGroup

/-- The number and the name of the scope of a group. -/
def label (g : NamedGroup) : Nat × ScopeName := (g.number, g.name)

/-- The order in which groups are considered. Captures of the same group keep their order. -/
def Before (g h : NamedGroup) : Prop :=
  g.range.start < h.range.start ∨ g.range.start = h.range.start ∧
    (h.range.stop < g.range.stop ∨ g.range.stop = h.range.stop ∧
      (g.index < h.index ∨ g.index = h.index ∧ g.number < h.number))

/-- Whether a group begins inside of another one and ends behind it. -/
def straddles (g earlier : NamedGroup) : Bool :=
  earlier.range.contains g.range.start && decide (earlier.range.stop < g.range.stop)

/-- The groups that are kept where others were kept before: those that straddle none of the groups
kept before them. -/
def keptAfter (earlier : List NamedGroup) : List NamedGroup → List NamedGroup
  | [] => []
  | g :: rest =>
    if earlier.any g.straddles then keptAfter earlier rest
    else g :: keptAfter (g :: earlier) rest

/-- The groups that are kept. -/
def kept (groups : List NamedGroup) : List NamedGroup := keptAfter [] groups

section Kept

variable {m : Match} {captures : Captures} {number : Nat} {g k : NamedGroup}
  {earlier earlier' groups : List NamedGroup}

/-- **The groups that are considered** are the captures of groups other than the whole match that
took part in it, are not empty and lie inside of it. -/
theorem mem_ofCaptures : g ∈ ofCaptures m captures number ↔
    ∃ i, captures[i]? = some (g.index, g.name) ∧ g.number = number + i ∧ g.index ≠ 0 ∧
      m.group g.index = some g.range ∧ g.range.start < g.range.stop ∧
      m.range.start ≤ g.range.start ∧ g.range.stop ≤ m.range.stop := by
  have hfits : ∀ range : Text.Span, fits m.range range = true ↔ range.start < range.stop ∧
      m.range.start ≤ range.start ∧ range.stop ≤ m.range.stop := by
    intro range
    simp [fits, Text.Span.isEmpty, and_assoc]
  rw [ofCaptures, List.mem_mergeSort, List.mem_filterMap]
  constructor
  · rintro ⟨⟨⟨index, name⟩, i⟩, hmem, h⟩
    dsimp only at h
    split at h
    · exact absurd h (by simp)
    · rename_i hindex
      obtain ⟨range, hrange, h⟩ := Option.bind_eq_some_iff.1 h
      split at h
      · rename_i hfit
        obtain rfl := Option.some.inj h
        exact ⟨i, List.mem_zipIdx_iff_getElem?.1 hmem, rfl, hindex, hrange, (hfits range).1 hfit⟩
      · exact absurd h (by simp)
  · rintro ⟨i, hi, hnumber, hindex, hrange, hfit⟩
    refine ⟨((g.index, g.name), i), List.mem_zipIdx_iff_getElem?.2 hi, ?_⟩
    dsimp only
    rw [if_neg hindex, hrange, Option.bind_some, if_pos ((hfits _).2 hfit), ← hnumber]

/-- **They are considered in order.** -/
theorem pairwise_before (m : Match) (captures : Captures) (number : Nat) :
    (ofCaptures m captures number).Pairwise Before := by
  refine (pairwise_mergeSort_stable notAfter notAfter_trans notAfter_total
    (r := fun g h => g.number < h.number) ?_).imp ?_
  · refine List.pairwise_filterMap.2 ((pairwise_zipIdx captures 0).imp ?_)
    rintro ⟨⟨index, name⟩, i⟩ ⟨⟨index', name'⟩, i'⟩ hlt g hg h hh
    have hnumber : ∀ {index : Nat} {name : ScopeName} {i : Nat} {g : NamedGroup},
        (if index = 0 then none else (m.group index).bind fun range =>
          if fits m.range range then some (⟨range, index, name, number + i⟩ : NamedGroup)
          else none) = some g → g.number = number + i := by
      intro index name i g hg
      split at hg
      · exact absurd hg (by simp)
      · obtain ⟨range, -, hg⟩ := Option.bind_eq_some_iff.1 hg
        split at hg
        · exact congrArg NamedGroup.number (Option.some.inj hg).symm
        · exact absurd hg (by simp)
    have hfirst := hnumber hg
    have hsecond := hnumber hh
    dsimp only at hlt
    omega
  · rintro g h ⟨hle, hequal⟩
    rw [notAfter_iff] at hle
    have hback : h.notAfter g = true ↔ _ := notAfter_iff
    unfold Before
    by_cases hsame : h.notAfter g = true
    · have := hequal hsame
      have := hback.1 hsame
      omega
    · have := mt hback.2 hsame
      omega

/-- A group that straddles none that begins before it lies inside of it or behind it. -/
theorem of_not_straddles (hle : k.range.start ≤ g.range.start) (h : g.straddles k = false) :
    g.range.stop ≤ k.range.stop ∨ k.range.stop ≤ g.range.start := by
  rw [straddles, Bool.and_eq_false_iff, decide_eq_false_iff_not, ← Bool.not_eq_true,
    Text.Span.contains_iff] at h
  omega

/-- A group does not straddle one that ends before it begins. -/
theorem straddles_eq_false (h : k.range.stop ≤ g.range.start) : g.straddles k = false := by
  rw [straddles, Bool.and_eq_false_iff, ← Bool.not_eq_true, Text.Span.contains_iff]
  omega

/-- Only groups that there are are kept. -/
theorem keptAfter_sublist (earlier groups : List NamedGroup) :
    (keptAfter earlier groups).Sublist groups := by
  induction groups generalizing earlier with
  | nil => exact .slnil
  | cons g groups ih =>
    rw [keptAfter]
    split
    · exact (ih earlier).cons g
    · exact (ih (g :: earlier)).cons_cons g

/-- A group that is kept straddles none that was kept before. -/
theorem not_straddles_of_mem_keptAfter (hg : g ∈ keptAfter earlier groups) (hk : k ∈ earlier) :
    g.straddles k = false := by
  induction groups generalizing earlier with
  | nil => exact absurd hg (by simp [keptAfter])
  | cons h groups ih =>
    rw [keptAfter] at hg
    split at hg
    · exact ih hg hk
    · rename_i hkeep
      rcases List.mem_cons.1 hg with rfl | hg
      · exact Bool.eq_false_iff.2 fun hstraddles => hkeep (List.any_eq_true.2 ⟨k, hk, hstraddles⟩)
      · exact ih hg (List.mem_cons_of_mem h hk)

/-- No group that is kept straddles another one. -/
theorem pairwise_keptAfter (earlier groups : List NamedGroup) :
    (keptAfter earlier groups).Pairwise fun k g => g.straddles k = false := by
  induction groups generalizing earlier with
  | nil => exact .nil
  | cons g groups ih =>
    rw [keptAfter]
    split
    · exact ih earlier
    · exact List.pairwise_cons.2
        ⟨fun h hh => not_straddles_of_mem_keptAfter hh List.mem_cons_self, ih (g :: earlier)⟩

/-- **Two groups that are kept lie inside of each other or apart.** -/
theorem pairwise_kept (h : groups.Pairwise fun g h => g.range.start ≤ h.range.start) :
    (kept groups).Pairwise fun k g => k.range.start ≤ g.range.start ∧
      (g.range.stop ≤ k.range.stop ∨ k.range.stop ≤ g.range.start) :=
  ((h.sublist (keptAfter_sublist [] groups)).and (pairwise_keptAfter [] groups)).imp
    fun ⟨hle, hnot⟩ => ⟨hle, of_not_straddles hle hnot⟩

/-- Which groups are kept depends on what they straddle only. -/
theorem keptAfter_congr
    (h : ∀ g ∈ groups, earlier.any g.straddles = earlier'.any g.straddles) :
    keptAfter earlier groups = keptAfter earlier' groups := by
  induction groups generalizing earlier earlier' with
  | nil => rfl
  | cons g groups ih =>
    obtain ⟨hg, hgroups⟩ := List.forall_mem_cons.1 h
    have hboth : ∀ k ∈ groups, (g :: earlier).any k.straddles = (g :: earlier').any k.straddles :=
      fun k hk => by rw [List.any_cons, List.any_cons, hgroups k hk]
    rw [keptAfter, keptAfter, hg, ih hgroups, ih hboth]

/-- Groups that have ended before others begin do not matter for which of these are kept. -/
theorem keptAfter_ended {place : Nat} {front : List NamedGroup}
    (hfront : ∀ k ∈ front, k.range.stop ≤ place)
    (hgroups : ∀ g ∈ groups, place ≤ g.range.start) (left : List NamedGroup) :
    keptAfter (front ++ left) groups = keptAfter left groups := by
  refine keptAfter_congr fun g hg => ?_
  have hnone : front.any g.straddles = false := by
    refine List.any_eq_false.2 fun k hk => ?_
    rw [straddles_eq_false (Nat.le_trans (hfront k hk) (hgroups g hg))]
    exact Bool.false_ne_true
  rw [List.any_append, hnone, Bool.false_or]

end Kept

end NamedGroup

/-! ## Open groups -/

/-- The stack inside of groups, the first one innermost. -/
def groupStack (theme : Theme) (base : ScopeStack) (groups : List NamedGroup) : ScopeStack :=
  .opening theme base (groups.reverse.map NamedGroup.label)

/-- Groups as they stand while they are open, the first one innermost. -/
def openGroups (theme : Theme) (base : ScopeStack) : List NamedGroup → List OpenGroup
  | [] => []
  | g :: outer => ⟨g.range.stop, groupStack theme base (g :: outer)⟩ :: openGroups theme base outer

/-- Groups, the first one innermost, that have begun and have not ended at a place; the ends of
outer groups lie behind those of inner ones. -/
structure OpenAt (cursor stop : Nat) (groups : List NamedGroup) : Prop where
  nested : groups.Pairwise fun g outer => g.range.stop ≤ outer.range.stop
  open_of_mem : ∀ g ∈ groups, g.range.start ≤ cursor ∧ cursor ≤ g.range.stop ∧ g.range.stop ≤ stop

section Open

variable {theme : Theme} {base : ScopeStack} {cursor limit stop offset : Nat} {g : NamedGroup}
  {groups outer front left : List NamedGroup}

/-- Without groups the stack is the one they stand on. -/
@[simp] theorem groupStack_nil : groupStack theme base [] = base := rfl

/-- Each group puts its scope on the stack. -/
@[simp] theorem groupStack_cons : groupStack theme base (g :: outer) =
    Scope.inside theme g.number (some g.name) (groupStack theme base outer) ::
      groupStack theme base outer := by
  simp [groupStack, ScopeStack.opening, NamedGroup.label]

/-- The stack inside of the innermost group, if there is any. -/
def innermostStack (base : ScopeStack) (opened : List OpenGroup) : ScopeStack :=
  (opened.head?.map (·.stack)).getD base

/-- The innermost stack of some open groups has the scopes of all of them. -/
@[simp] theorem innermostStack_openGroups (theme : Theme) (base : ScopeStack)
    (groups : List NamedGroup) :
    innermostStack base (openGroups theme base groups) = groupStack theme base groups := by
  cases groups with
  | nil => rfl
  | cons g outer => rfl

/-- Behind the innermost group the others are open. -/
theorem OpenAt.tail (h : OpenAt cursor stop (g :: outer)) : OpenAt g.range.stop stop outer := by
  obtain ⟨hinner, hnested⟩ := List.pairwise_cons.1 h.nested
  obtain ⟨hg, houter⟩ := List.forall_mem_cons.1 h.open_of_mem
  refine ⟨hnested, fun k hk => ⟨?_, hinner k hk, (houter k hk).2.2⟩⟩
  exact Nat.le_trans (houter k hk).1 hg.2.1

/-- Outer groups that reach behind a place are open there. -/
theorem OpenAt.of_append {place : Nat} (h : OpenAt cursor stop (front ++ left))
    (hle : cursor ≤ place) (hleft : ∀ g ∈ left, place ≤ g.range.stop) : OpenAt place stop left := by
  refine ⟨(List.pairwise_append.1 h.nested).2.1, fun g hg => ?_⟩
  obtain ⟨hstart, -, hstop⟩ := h.open_of_mem g (List.mem_append_right _ hg)
  exact ⟨Nat.le_trans hstart hle, hleft g hg, hstop⟩

/-- The groups that contain a byte before the end of the innermost one are all of them. -/
theorem OpenAt.filter_contains (h : OpenAt cursor stop groups) (hle : cursor ≤ offset)
    (hlt : ∀ g ∈ groups, offset < g.range.stop) :
    groups.filter (·.range.contains offset) = groups := by
  refine List.filter_eq_self.2 fun g hg => Text.Span.contains_iff.2 ⟨?_, hlt g hg⟩
  exact Nat.le_trans (h.open_of_mem g hg).1 hle

/-- The groups that have ended contain no byte that follows. -/
theorem filter_contains_ended (left : List NamedGroup)
    (hfront : ∀ g ∈ front, g.range.stop ≤ offset) :
    (front ++ left).filter (·.range.contains offset) =
      left.filter (·.range.contains offset) := by
  rw [List.filter_append, List.filter_eq_nil_iff.2, List.nil_append]
  intro g hg
  have := hfront g hg
  rw [Text.Span.contains_iff]
  omega

/-- The groups that begin later contain no byte before them. -/
theorem filter_contains_later (left : List NamedGroup)
    (hlater : ∀ g ∈ front, offset < g.range.start) :
    (front ++ left).filter (·.range.contains offset) =
      left.filter (·.range.contains offset) := by
  rw [List.filter_append, List.filter_eq_nil_iff.2, List.nil_append]
  intro g hg
  have := hlater g hg
  rw [Text.Span.contains_iff]
  omega

/-- **Closing the groups that end at or before a place** leaves those that reach behind it. The
tokens that this gives lie inside of the groups that contain them. -/
theorem closeGroups_carries (theme : Theme) (base : ScopeStack) (h : OpenAt cursor stop groups)
    (hlimit : cursor ≤ limit) :
    ∃ tokens place front left,
      closeGroups limit cursor (openGroups theme base groups) =
        (tokens, place, openGroups theme base left) ∧
      groups = front ++ left ∧ (∀ g ∈ front, g.range.stop ≤ place) ∧
      (∀ g ∈ left, limit < g.range.stop) ∧ cursor ≤ place ∧ place ≤ limit ∧
      Carries (fun offset => groupStack theme base (groups.filter (·.range.contains offset)))
        cursor place tokens := by
  induction groups generalizing cursor with
  | nil =>
    exact ⟨[], cursor, [], [], rfl, rfl, by simp, by simp, Nat.le_refl _, hlimit, carries_nil _ _⟩
  | cons g outer ih =>
    obtain ⟨hinner, -⟩ := List.pairwise_cons.1 h.nested
    obtain ⟨hstart, hcursor, -⟩ := h.open_of_mem g List.mem_cons_self
    by_cases hclose : g.range.stop ≤ limit
    · obtain ⟨tokens, place, front, left, hclosed, rfl, hfront, hleft, hplace, hbefore, hcarries⟩ :=
        ih h.tail hclose
      refine ⟨tokenOf cursor g.range.stop (groupStack theme base (g :: (front ++ left))) ++ tokens,
        place, g :: front, left, ?_, rfl, ?_, hleft, by omega, hbefore, ?_⟩
      · rw [openGroups, closeGroups, if_pos hclose, hclosed]
      · exact List.forall_mem_cons.2 ⟨hplace, hfront⟩
      · refine Carries.append (carries_tokenOf hcursor fun offset hle hlt => ?_)
          (hcarries.congr fun offset hle hlt => ?_)
        · -- Up to the end of the innermost group all groups are around.
          rw [h.filter_contains hle]
          refine List.forall_mem_cons.2 ⟨hlt, fun k hk => ?_⟩
          exact Nat.lt_of_lt_of_le hlt (hinner k hk)
        · have hended : ∀ k ∈ [g], k.range.stop ≤ offset := by simpa using hle
          exact congrArg (groupStack theme base) (filter_contains_ended _ hended).symm
    · refine ⟨[], cursor, [], g :: outer, ?_, rfl, by simp, ?_, Nat.le_refl _, hlimit,
        carries_nil _ _⟩
      · rw [openGroups, closeGroups, if_neg hclose]
      · refine List.forall_mem_cons.2 ⟨Nat.lt_of_not_le hclose, fun k hk => ?_⟩
        exact Nat.lt_of_lt_of_le (Nat.lt_of_not_le hclose) (hinner k hk)

/-- Closing all groups is closing those that end at or before a place behind all of them. -/
theorem closeAll_eq (theme : Theme) (base : ScopeStack) (h : ∀ g ∈ groups, g.range.stop ≤ limit) :
    closeAll cursor (openGroups theme base groups) =
      ((closeGroups limit cursor (openGroups theme base groups)).1,
        (closeGroups limit cursor (openGroups theme base groups)).2.1) := by
  induction groups generalizing cursor with
  | nil => rfl
  | cons g outer ih =>
    obtain ⟨hg, houter⟩ := List.forall_mem_cons.1 h
    rw [openGroups, closeAll, closeGroups, if_pos hg, ih houter]

/-- Of the groups that have begun and not ended where a group begins it straddles any if it
straddles the innermost one. -/
theorem OpenAt.any_straddles (theme : Theme) (base : ScopeStack) (h : OpenAt cursor stop groups)
    (hcursor : cursor ≤ g.range.start) (hends : ∀ k ∈ groups, g.range.start < k.range.stop) :
    groups.any g.straddles =
      (openGroups theme base groups).head?.any fun o => decide (o.stop < g.range.stop) := by
  have hinside : ∀ k ∈ groups, g.straddles k = decide (k.range.stop < g.range.stop) := by
    intro k hk
    have hin : k.range.contains g.range.start = true :=
      Text.Span.contains_iff.2 ⟨Nat.le_trans (h.open_of_mem k hk).1 hcursor, hends k hk⟩
    rw [NamedGroup.straddles, hin, Bool.true_and]
  cases groups with
  | nil => rfl
  | cons k outer =>
    obtain ⟨hinner, -⟩ := List.pairwise_cons.1 h.nested
    rw [openGroups, List.head?_cons, Option.any_some, Bool.eq_iff_iff, List.any_eq_true,
      decide_eq_true_eq]
    constructor
    · rintro ⟨k', hk', hstraddles⟩
      rw [hinside k' hk', decide_eq_true_eq] at hstraddles
      rcases List.mem_cons.1 hk' with rfl | hk'
      · exact hstraddles
      · exact Nat.lt_of_le_of_lt (hinner k' hk') hstraddles
    · intro hlt
      refine ⟨k, List.mem_cons_self, ?_⟩
      rw [hinside k List.mem_cons_self, decide_eq_true_eq]
      exact hlt

/-- A group that straddles none of the open ones is opened inside of them. -/
theorem OpenAt.cons (h : OpenAt cursor stop groups) (hcursor : cursor ≤ g.range.start)
    (hlt : g.range.start < g.range.stop) (hstop : g.range.stop ≤ stop)
    (hends : ∀ k ∈ groups, g.range.start < k.range.stop) (hnot : ¬ groups.any g.straddles) :
    OpenAt g.range.start stop (g :: groups) := by
  have hinside : ∀ k ∈ groups, g.range.stop ≤ k.range.stop := by
    intro k hk
    have hstart := Nat.le_trans (h.open_of_mem k hk).1 hcursor
    have hfalse : g.straddles k = false :=
      Bool.eq_false_iff.2 fun hstraddles => hnot (List.any_eq_true.2 ⟨k, hk, hstraddles⟩)
    have := NamedGroup.of_not_straddles hstart hfalse
    have := hends k hk
    omega
  refine ⟨List.pairwise_cons.2 ⟨hinside, h.nested⟩, List.forall_mem_cons.2 ⟨?_, fun k hk => ?_⟩⟩
  · exact ⟨Nat.le_refl _, Nat.le_of_lt hlt, hstop⟩
  · obtain ⟨hstart, -, hbelow⟩ := h.open_of_mem k hk
    exact ⟨Nat.le_trans hstart hcursor, Nat.le_of_lt (hends k hk), hbelow⟩

/-! ## All groups -/

/-- What is done with a group: it is passed over if it straddles the innermost group that is left,
and otherwise opened inside of that one. -/
theorem groupTokens_cons {opened left : List OpenGroup} {tokens : List Token} {place : Nat}
    (hclosed : closeGroups g.range.start cursor opened = (tokens, place, left)) :
    groupTokens theme base stop cursor opened (g :: groups) =
      tokens ++
        if left.head?.any fun o => decide (o.stop < g.range.stop) then
          groupTokens theme base stop place left groups
        else
          tokenOf place g.range.start (innermostStack base left) ++
            groupTokens theme base stop g.range.start
              (⟨g.range.stop, Scope.inside theme g.number (some g.name) (innermostStack base left) ::
                innermostStack base left⟩ :: left) groups := by
  rw [groupTokens, hclosed]
  cases left with
  | nil => rfl
  | cons o outer => rfl

/-- Where no groups are to come, the tokens lie inside of those that are open. -/
theorem groupTokens_nil_carries (theme : Theme) (base : ScopeStack) {opened : List NamedGroup}
    (hopen : OpenAt cursor stop opened) (hcursor : cursor ≤ stop) :
    Carries (fun offset => groupStack theme base (opened.filter (·.range.contains offset)))
      cursor stop (groupTokens theme base stop cursor (openGroups theme base opened) []) := by
  have hends : ∀ g ∈ opened, g.range.stop ≤ stop := fun g hg => (hopen.open_of_mem g hg).2.2
  obtain ⟨tokens, place, front, left, hclosed, rfl, hfront, hleft, -, hplace, hcarries⟩ :=
    closeGroups_carries theme base hopen hcursor
  have hnone : left = [] := by
    refine List.eq_nil_iff_forall_not_mem.2 fun g hg => ?_
    have := hleft g hg
    have := hends g (List.mem_append_right _ hg)
    omega
  rw [groupTokens, closeAll_eq theme base hends, hclosed]
  refine Carries.append hcarries (carries_tokenOf hplace fun offset hle _ => ?_)
  -- Behind the end of the last group only the scopes around the match are left.
  have hended : ∀ g ∈ front, g.range.stop ≤ offset := fun g hg => Nat.le_trans (hfront g hg) hle
  rw [filter_contains_ended left hended, hnone, List.filter_nil, groupStack_nil]

/-- **The tokens of groups lie inside of the groups that are kept.** Those that are open now were
kept before. Of these a group straddles any if it straddles the innermost one that has not ended
where it begins. -/
theorem groupTokens_carries (theme : Theme) (base : ScopeStack) (opened : List NamedGroup)
    (hopen : OpenAt cursor stop opened) (hcursor : cursor ≤ stop)
    (hsorted : groups.Pairwise fun g h => g.range.start ≤ h.range.start)
    (hgroups : ∀ g ∈ groups, cursor ≤ g.range.start ∧ g.range.start < g.range.stop ∧
      g.range.stop ≤ stop) :
    Carries
      (fun offset => groupStack theme base
        (((NamedGroup.keptAfter opened groups).reverse ++ opened).filter
          (·.range.contains offset)))
      cursor stop (groupTokens theme base stop cursor (openGroups theme base opened) groups) := by
  induction groups generalizing cursor opened with
  | nil => exact groupTokens_nil_carries theme base hopen hcursor
  | cons g rest ih =>
    obtain ⟨hfirst, hsorted⟩ := List.pairwise_cons.1 hsorted
    obtain ⟨⟨hstart, hlt, hstop⟩, hrest⟩ := List.forall_mem_cons.1 hgroups
    obtain ⟨tokens, place, front, left, hclosed, rfl, hfront, hleft, hle, hplace, hcarries⟩ :=
      closeGroups_carries theme base hopen hstart
    have hopenLeft : OpenAt place stop left :=
      hopen.of_append hle fun k hk => Nat.le_trans hplace (Nat.le_of_lt (hleft k hk))
    have hbehind : ∀ k ∈ g :: rest, g.range.start ≤ k.range.start :=
      List.forall_mem_cons.2 ⟨Nat.le_refl _, hfirst⟩
    have hended : ∀ {offset : Nat}, place ≤ offset → ∀ k ∈ front, k.range.stop ≤ offset :=
      fun hle k hk => Nat.le_trans (hfront k hk) hle
    have hlater : ∀ {offset : Nat}, offset < g.range.start →
        ∀ k ∈ (NamedGroup.keptAfter left (g :: rest)).reverse, offset < k.range.start := by
      intro offset hoffset k hk
      have hmem := (NamedGroup.keptAfter_sublist _ _).subset (List.mem_reverse.1 hk)
      exact Nat.lt_of_lt_of_le hoffset (hbehind k hmem)
    rw [NamedGroup.keptAfter_ended hfront (fun k hk => Nat.le_trans hplace (hbehind k hk)) left,
      groupTokens_cons hclosed, innermostStack_openGroups, ← groupStack_cons,
      ← hopenLeft.any_straddles theme base hplace hleft]
    refine Carries.append (hcarries.congr fun offset _ hoffset => ?_) ?_
    · rw [filter_contains_later _ (hlater (Nat.lt_of_lt_of_le hoffset hplace))]
    · split
      · -- The group is dropped.
        rename_i hstraddles
        have hcarried := ih left hopenLeft (Nat.le_trans hplace (by omega)) hsorted fun k hk =>
          ⟨Nat.le_trans hplace (hfirst k hk), (hrest k hk).2⟩
        refine hcarried.congr fun offset hoffset _ => ?_
        rw [NamedGroup.keptAfter, if_pos hstraddles, List.filter_append, List.filter_append,
          filter_contains_ended left (hended hoffset)]
      · -- The group is kept, and open from where it begins.
        rename_i hstraddles
        have hopenMore := hopenLeft.cons hplace hlt hstop hleft hstraddles
        have hcarried := ih (g :: left) hopenMore (by omega) hsorted fun k hk =>
          ⟨hfirst k hk, (hrest k hk).2⟩
        refine Carries.append (carries_tokenOf hplace fun offset hle hlt => ?_)
          (hcarried.congr fun offset hoffset _ => ?_)
        · rw [filter_contains_later _ (hlater hlt), filter_contains_ended left (hended hle),
            hopenLeft.filter_contains hle fun k hk => Nat.lt_trans hlt (hleft k hk)]
        · have hfront := filter_contains_ended left (hended (Nat.le_trans hplace hoffset))
          rw [NamedGroup.keptAfter, if_neg hstraddles, List.reverse_cons, List.append_assoc,
            List.filter_append, List.filter_append, List.singleton_append, List.filter_cons,
            List.filter_cons, hfront]

end Open

/-! ## The scopes of a match -/

section Match

variable {theme : Theme} {base stack : ScopeStack} {captures : Captures} {number i : Nat}
  {name : ScopeName} {known : List Scope} {m : Match}

/-- The stack for a whole match has the scopes of its labels. -/
theorem wholeStack_eq (theme : Theme) (number : Nat) (stack : ScopeStack) (captures : Captures) :
    wholeStack theme number stack captures = .opening theme stack (wholeLabels captures number) := by
  induction captures generalizing number stack with
  | nil => rfl
  | cons entry rest ih =>
    obtain ⟨index, name⟩ := entry
    rw [wholeStack, wholeLabels, List.zipIdx_cons, List.filterMap_cons]
    split
    · rw [ih]
      rfl
    · rw [ih]
      rfl

/-- The labels are those of the captures of the whole match. -/
theorem mem_wholeLabels {label : Nat × ScopeName} : label ∈ wholeLabels captures number ↔
    ∃ i, captures[i]? = some (0, label.2) ∧ label.1 = number + i := by
  rw [wholeLabels, List.mem_filterMap]
  constructor
  · rintro ⟨⟨⟨index, name⟩, j⟩, hmem, h⟩
    dsimp only at h
    split at h
    · rename_i hindex
      obtain ⟨hle, hcapture⟩ := List.mem_zipIdx_iff_le_and_getElem?_sub.1 hmem
      dsimp only at hle hcapture
      obtain rfl := Option.some.inj h
      exact ⟨j - number, hindex ▸ hcapture, by dsimp only; omega⟩
    · exact absurd h (by simp)
  · rintro ⟨i, hi, hlabel⟩
    refine ⟨((0, label.2), number + i), List.mk_add_mem_zipIdx_iff_getElem?.2 hi, ?_⟩
    rw [if_pos rfl, ← hlabel]

/-- The labels of a whole match have different numbers. -/
theorem nodup_wholeLabels (captures : Captures) (number : Nat) :
    ((wholeLabels captures number).map (·.1)).Nodup := by
  refine List.pairwise_map.2 (List.pairwise_filterMap.2
    ((pairwise_zipIdx captures number).imp ?_))
  intro entry entry' hlt label hlabel label' hlabel'
  split at hlabel
  · split at hlabel'
    · obtain rfl := Option.some.inj hlabel
      obtain rfl := Option.some.inj hlabel'
      exact Nat.ne_of_lt hlt
    · exact absurd hlabel' (by simp)
  · exact absurd hlabel (by simp)

/-- The groups that are considered have different numbers. -/
theorem NamedGroup.nodup_number (m : Match) (captures : Captures) (number : Nat) :
    ((ofCaptures m captures number).map (·.number)).Nodup := by
  have hdistinct : (ofCaptures m captures number).Nodup :=
    (pairwise_before m captures number).imp fun {g h} hbefore heq => by
      subst heq
      unfold Before at hbefore
      omega
  refine List.Nodup.map_on (fun g hg h hh heq => ?_) hdistinct
  obtain ⟨i, hi, hnumber, -, hrange, -⟩ := mem_ofCaptures.1 hg
  obtain ⟨i', hi', hnumber', -, hrange', -⟩ := mem_ofCaptures.1 hh
  obtain rfl : i = i' := by omega
  obtain ⟨hindex, hname⟩ := Prod.mk.inj (Option.some.inj (hi.symm.trans hi'))
  obtain ⟨range, index, name, number'⟩ := g
  obtain ⟨range', index', name', number''⟩ := h
  dsimp only at hindex hname hrange hrange' heq
  subst hindex hname heq
  obtain rfl := Option.some.inj (hrange.symm.trans hrange')
  rfl

/-- Opening scopes with new numbers makes scopes that are told apart from those that were there. -/
theorem exists_known_opening (theme : Theme) (hknown : Numbered number known)
    (hstack : stack ⊆ known) {labels : List (Nat × ScopeName)} (hnodup : (labels.map (·.1)).Nodup)
    (hbelow : ∀ label ∈ labels, label.1 < number)
    (hfresh : ∀ s ∈ known, ∀ label ∈ labels, s.number ≠ label.1) :
    ∃ known', known ⊆ known' ∧ Numbered number known' ∧
      ScopeStack.opening theme stack labels ⊆ known' ∧
      ∀ s ∈ known', s ∈ known ∨ ∃ label ∈ labels, s.number = label.1 := by
  induction labels generalizing stack known with
  | nil => exact ⟨known, List.Subset.refl _, hknown, hstack, fun s hs => Or.inl hs⟩
  | cons label labels ih =>
    rw [List.map_cons, List.nodup_cons] at hnodup
    obtain ⟨hlabel, hbelow⟩ := List.forall_mem_cons.1 hbelow
    let scope := Scope.inside theme label.1 (some label.2) stack
    have hone : Numbered number (scope :: known) :=
      hknown.cons (fun s hs => hfresh s hs label List.mem_cons_self) hlabel
    have hrest : ∀ s ∈ scope :: known, ∀ l ∈ labels, s.number ≠ l.1 := by
      refine List.forall_mem_cons.2 ⟨fun l hl heq => hnodup.1 ?_, fun s hs l hl => ?_⟩
      · exact List.mem_map.2 ⟨l, hl, heq.symm⟩
      · exact hfresh s hs l (List.mem_cons_of_mem label hl)
    obtain ⟨known', hsubset, htold, hopened, hnumbers⟩ :=
      ih hone (List.cons_subset_cons scope hstack) hnodup.2 hbelow hrest
    refine ⟨known', fun s hs => hsubset (List.mem_cons_of_mem scope hs), htold, hopened,
      fun s hs => ?_⟩
    rcases hnumbers s hs with hmem | ⟨l, hl, heq⟩
    · rcases List.mem_cons.1 hmem with rfl | hmem
      · exact Or.inr ⟨label, List.mem_cons_self, rfl⟩
      · exact Or.inl hmem
    · exact Or.inr ⟨l, List.mem_cons_of_mem label hl, heq⟩

/-- **The scopes around the tokens of groups are told apart**, as each group is opened once. -/
theorem exists_known_groupTokens (theme : Theme) (hknown : Numbered number known)
    (hbase : base ⊆ known) (opened : List OpenGroup) (hopened : ∀ o ∈ opened, o.stack ⊆ known)
    {groups : List NamedGroup} (hnodup : (groups.map (·.number)).Nodup)
    (hbelow : ∀ g ∈ groups, g.number < number)
    (hfresh : ∀ s ∈ known, ∀ g ∈ groups, s.number ≠ g.number) (stop cursor : Nat) :
    ∃ known', known ⊆ known' ∧ Numbered number known' ∧
      ∀ t ∈ groupTokens theme base stop cursor opened groups, t.scopes ⊆ known' := by
  induction groups generalizing known cursor opened with
  | nil =>
    refine ⟨known, List.Subset.refl _, hknown, fun t ht => ?_⟩
    rw [groupTokens] at ht
    rcases List.mem_append.1 ht with ht | ht
    · exact of_closeAll (P := (· ⊆ known)) hopened t ht
    · exact scopes_of_mem_tokenOf ht ▸ hbase
  | cons g rest ih =>
    rw [List.map_cons, List.nodup_cons] at hnodup
    obtain ⟨hg, hbelow⟩ := List.forall_mem_cons.1 hbelow
    obtain ⟨hclosed, hleft⟩ := of_closeGroups (P := (· ⊆ known)) g.range.start cursor hopened
    cases hclosing : closeGroups g.range.start cursor opened with
    | mk closed rest' =>
      obtain ⟨place, left⟩ := rest'
      rw [hclosing] at hclosed hleft
      dsimp only at hclosed hleft
      rw [groupTokens_cons hclosing]
      split
      · obtain ⟨known', hsubset, htold, htokens⟩ := ih hknown hbase left hleft hnodup.2 hbelow
          (fun s hs k hk => hfresh s hs k (List.mem_cons_of_mem g hk)) place
        refine ⟨known', hsubset, htold, List.forall_mem_append.2 ⟨fun t ht => ?_, htokens⟩⟩
        exact List.Subset.trans (hclosed t ht) hsubset
      · have hinside : innermostStack base left ⊆ known := by
          cases left with
          | nil => exact hbase
          | cons o others => exact hleft o List.mem_cons_self
        let scope := Scope.inside theme g.number (some g.name) (innermostStack base left)
        have hgrown : known ⊆ scope :: known := List.subset_cons_self scope known
        have hopen : ∀ o ∈ (⟨g.range.stop, scope :: innermostStack base left⟩ : OpenGroup) :: left,
            o.stack ⊆ scope :: known :=
          List.forall_mem_cons.2 ⟨List.cons_subset_cons scope hinside,
            fun o ho => List.Subset.trans (hleft o ho) hgrown⟩
        have hnew : ∀ s ∈ scope :: known, ∀ k ∈ rest, s.number ≠ k.number := by
          refine List.forall_mem_cons.2 ⟨fun k hk heq => ?_, fun s hs k hk => ?_⟩
          · exact hnodup.1 (List.mem_map.2 ⟨k, hk, heq.symm⟩)
          · exact hfresh s hs k (List.mem_cons_of_mem g hk)
        obtain ⟨known', hsubset, htold, htokens⟩ :=
          ih (hknown.cons (fun s hs => hfresh s hs g List.mem_cons_self) hg)
            (List.Subset.trans hbase hgrown) _ hopen hnodup.2 hbelow hnew g.range.start
        have hknown' := List.Subset.trans hgrown hsubset
        refine ⟨known', hknown', htold, List.forall_mem_append.2 ⟨fun t ht => ?_,
          List.forall_mem_append.2 ⟨fun t ht => ?_, htokens⟩⟩⟩
        · exact List.Subset.trans (hclosed t ht) hknown'
        · exact scopes_of_mem_tokenOf ht ▸ List.Subset.trans hinside hknown'

/-- **The scopes around the tokens of a match are told apart** from each other and from those that
were there. -/
theorem exists_known_captureTokens (theme : Theme) (hknown : Numbered number known)
    (hstack : stack ⊆ known) (lineLength : Nat) (m : Match) (captures : Captures) :
    ∃ known', known ⊆ known' ∧ Numbered (number + captures.length) known' ∧
      ∀ t ∈ captureTokens theme lineLength m stack captures number, t.scopes ⊆ known' := by
  have hmore := hknown.mono (Nat.le_add_right number captures.length)
  unfold captureTokens
  split
  · exact ⟨known, List.Subset.refl _, hmore, by simp⟩
  · have hwhole : ∀ label ∈ wholeLabels captures number,
        number ≤ label.1 ∧ label.1 < number + captures.length := by
      intro label hlabel
      obtain ⟨i, hi, hnumber⟩ := mem_wholeLabels.1 hlabel
      have := (List.getElem?_eq_some_iff.1 hi).1
      omega
    have hgroup : ∀ g ∈ NamedGroup.ofCaptures m captures number,
        number ≤ g.number ∧ g.number < number + captures.length := by
      intro g hg
      obtain ⟨i, hi, hnumber, -⟩ := NamedGroup.mem_ofCaptures.1 hg
      have := (List.getElem?_eq_some_iff.1 hi).1
      omega
    obtain ⟨known', hsubset, htold, hopened, hnumbers⟩ :=
      exists_known_opening theme hmore hstack (nodup_wholeLabels captures number)
        (fun label hlabel => (hwhole label hlabel).2) fun s hs label hlabel =>
          Nat.ne_of_lt (Nat.lt_of_lt_of_le (hknown.fresh s hs) (hwhole label hlabel).1)
    have hfresh : ∀ s ∈ known', ∀ g ∈ NamedGroup.ofCaptures m captures number,
        s.number ≠ g.number := by
      intro s hs g hg
      rcases hnumbers s hs with hmem | ⟨label, hlabel, heq⟩
      · exact Nat.ne_of_lt (Nat.lt_of_lt_of_le (hknown.fresh s hmem) (hgroup g hg).1)
      · -- One capture is not both of the whole match and of another group.
        obtain ⟨i, hi, hnumber, hindex, -⟩ := NamedGroup.mem_ofCaptures.1 hg
        obtain ⟨j, hj, hlabelNumber⟩ := mem_wholeLabels.1 hlabel
        intro hsame
        obtain rfl : i = j := by omega
        exact hindex (congrArg Prod.fst (Option.some.inj (hi.symm.trans hj)))
    rw [wholeStack_eq]
    obtain ⟨known'', hgrown, htold', htokens⟩ := exists_known_groupTokens theme htold hopened
      [] (by simp) (NamedGroup.nodup_number m captures number) (fun g hg => (hgroup g hg).2) hfresh
      m.range.stop m.range.start
    exact ⟨known'', List.Subset.trans hsubset hgrown, htold', htokens⟩

/-- The tokens of a match lead through all of it, inside of the groups that are kept. -/
theorem captureTokens_carries (theme : Theme) (hm : m.range.start < m.range.stop) {lineLength : Nat}
    (hline : m.range.stop ≤ lineLength) (stack : ScopeStack) (captures : Captures) (number : Nat) :
    Carries
      (fun offset => .opening theme stack (wholeLabels captures number ++
        ((NamedGroup.kept (NamedGroup.ofCaptures m captures number)).filter
          (·.range.contains offset)).map NamedGroup.label))
      m.range.start m.range.stop
      (captureTokens theme lineLength m stack captures number) := by
  have hfull : ¬ (m.range.isEmpty = true ∨ lineLength < m.range.stop) := by
    simp only [Text.Span.isEmpty, decide_eq_true_eq]
    omega
  have hcarries := groupTokens_carries theme
    (.opening theme stack (wholeLabels captures number)) [] ⟨.nil, by simp⟩ (Nat.le_of_lt hm)
    (NamedGroup.pairwise_ofCaptures m captures number) fun g hg => by
      obtain ⟨-, -, -, -, -, hlt, hstart, hstop⟩ := NamedGroup.mem_ofCaptures.1 hg
      exact ⟨hstart, hlt, hstop⟩
  rw [captureTokens, if_neg hfull, wholeStack_eq]
  refine hcarries.congr fun offset _ _ => ?_
  rw [List.append_nil, List.filter_reverse, groupStack, List.reverse_reverse]
  exact (List.foldl_append ..).symm

/-- **Each byte of a match is left inside of the groups that contain it.** The match is not empty
and lies in the line, whose tokens so far lead to where the match begins; the numbers of their
scopes and of those around the match tell them apart and are below `number`. The groups that are
considered are those that took part in the match, are not empty and lie inside of it, outer ones
before inner ones; those that are kept lie inside of each other or apart. The tokens of the match
lead through exactly its range. Once they are taken up at the end of the line, each byte of the
match lies inside of the scopes around it, then those for the whole match, then those of the groups
that are kept and contain the byte, from the outermost one inwards; bytes before it lie inside of
what they did. -/
theorem TokenLine.captures_scope_kept_groups (theme : Theme) {m : Match}
    (hm : m.range.start < m.range.stop) {lineLength : Nat} (hline : m.range.stop ≤ lineLength)
    {l : TokenLine} (hrow : InRow 0 m.range.start l.tokens) {stack : ScopeStack} {number : Nat}
    (hnumbers : Numbered number (stack ++ l.tokens.flatMap (·.scopes))) (captures : Captures) :
    let groups := NamedGroup.ofCaptures m captures number
    let tokens := captureTokens theme lineLength m stack captures number
    let around := fun offset => ScopeStack.opening theme stack (wholeLabels captures number ++
      ((NamedGroup.kept groups).filter (·.range.contains offset)).map NamedGroup.label)
    (∀ g, g ∈ groups ↔ ∃ i, captures[i]? = some (g.index, g.name) ∧ g.number = number + i ∧
      g.index ≠ 0 ∧ m.group g.index = some g.range ∧ g.range.start < g.range.stop ∧
      m.range.start ≤ g.range.start ∧ g.range.stop ≤ m.range.stop) ∧
    groups.Pairwise NamedGroup.Before ∧
    ((NamedGroup.kept groups).Pairwise fun k g => k.range.start ≤ g.range.start ∧
      (g.range.stop ≤ k.range.stop ∨ k.range.stop ≤ g.range.start)) ∧
    Carries around m.range.start m.range.stop tokens ∧
    ∃ l', l.mergeAll? tokens = some l' ∧ InRow 0 m.range.stop l'.tokens ∧
      ∀ offset, l'.scopesAt? offset =
        if offset < m.range.start then l.scopesAt? offset
        else if offset < m.range.stop then some (around offset)
        else none := by
  intro groups tokens around
  have hcarries : Carries around m.range.start m.range.stop tokens :=
    captureTokens_carries theme hm hline stack captures number
  refine ⟨fun g => NamedGroup.mem_ofCaptures, NamedGroup.pairwise_before m captures number,
    NamedGroup.pairwise_kept (NamedGroup.pairwise_ofCaptures m captures number), hcarries, ?_⟩
  obtain ⟨known, hsubset, htold, htokens⟩ := exists_known_captureTokens theme hnumbers
    (List.subset_append_left stack _) lineLength m captures
  have hinside : l.Inside (· ⊆ known) := by
    refine fun t ht s hs => hsubset (List.mem_append_right stack (List.mem_flatMap.2 ⟨t, ?_, hs⟩))
    exact List.mem_reverse.2 ht
  -- Which scopes are around a byte of the longer line.
  let both := fun offset =>
    if offset < m.range.start then (l.scopesAt? offset).getD [] else around offset
  have hold : Carries both 0 m.range.start l.tokens :=
    hrow.carries.congr fun offset _ hlt => (if_pos hlt).symm
  have hnew : Carries both m.range.start m.range.stop tokens :=
    hcarries.congr fun offset hle _ => (if_neg (Nat.not_lt_of_le hle)).symm
  obtain ⟨l', hl', hlonger⟩ := mergeAll?_carries hold hnew htold.toldApart hinside htokens
  refine ⟨l', hl', hlonger.row, fun offset => ?_⟩
  rw [scopesAt?_of_carries hlonger]
  by_cases hlt : offset < m.range.start
  · rw [if_pos (Nat.lt_trans hlt hm), if_pos hlt, scopesAt?_of_carries hold, if_pos hlt]
  · rw [if_neg hlt]
    split
    · exact congrArg some (if_neg hlt)
    · rfl

/-- A match behind the first byte of a line. Its second group lies inside of the first one, the third
one across its end, the fourth one behind it; the fifth one did not take part, and the last one
reaches out of the match. -/
def straddlingMatch : Match :=
  ⟨⟨1, 6⟩, [some ⟨1, 4⟩, some ⟨2, 3⟩, some ⟨3, 5⟩, some ⟨4, 6⟩, none, some ⟨4, 9⟩]⟩

/-- Scopes for the whole match and for all of its groups. -/
def straddlingCaptures : Captures :=
  [(0, ⟨"whole"⟩), (1, ⟨"outer"⟩), (2, ⟨"inner"⟩), (3, ⟨"across"⟩), (4, ⟨"behind"⟩), (5, ⟨"none"⟩),
    (6, ⟨"out"⟩)]

/-- The scope around the match. -/
def straddlingRoot : Scope := Scope.inside .builtin 0 (some ⟨rootScope⟩) []

/-- The group that lies across an end and the one that reaches out of the match get no scopes. -/
theorem TokenLine.captures_scope_kept_groups_straddling :
    let l : TokenLine := ⟨[⟨⟨0, 1⟩, [straddlingRoot]⟩]⟩
    let paths := fun l : TokenLine => fun offset =>
      (l.scopesAt? offset).map fun s => s.path.map (·.text)
    straddlingMatch.range.start < straddlingMatch.range.stop ∧ straddlingMatch.range.stop ≤ 8 ∧
    InRow 0 straddlingMatch.range.start l.tokens ∧
    Numbered 1 ([straddlingRoot] ++ l.tokens.flatMap (·.scopes)) ∧
    ∃ l', l.mergeAll? (captureTokens .builtin 8 straddlingMatch [straddlingRoot]
        straddlingCaptures 1) = some l' ∧
      InRow 0 6 l'.tokens ∧
      paths l' 0 = paths l 0 ∧ paths l' 2 = some [rootScope, "whole", "outer", "inner"] ∧
      paths l' 3 = some [rootScope, "whole", "outer"] ∧
      paths l' 4 = some [rootScope, "whole", "behind"] ∧ paths l' 6 = none := by
  intro l paths
  have hrow : InRow 0 straddlingMatch.range.start l.tokens := ⟨rfl, by decide, rfl⟩
  have hnumbers : Numbered 1 ([straddlingRoot] ++ l.tokens.flatMap (·.scopes)) := by
    constructor
    · simp [ToldApart, l, TokenLine.tokens]
    · simp [l, TokenLine.tokens, straddlingRoot, Scope.inside]
  refine ⟨by decide, by decide, hrow, hnumbers, ?_⟩
  have hmatch : straddlingMatch.range.start < straddlingMatch.range.stop := by decide
  have hline : straddlingMatch.range.stop ≤ 8 := by decide
  obtain ⟨-, -, -, -, l', hl', hlonger, hscopes⟩ :=
    captures_scope_kept_groups .builtin hmatch hline hrow hnumbers straddlingCaptures
  -- These groups are in order from the start.
  have hgroups : NamedGroup.ofCaptures straddlingMatch straddlingCaptures 1 =
      [⟨⟨1, 4⟩, 1, ⟨"outer"⟩, 2⟩, ⟨⟨2, 3⟩, 2, ⟨"inner"⟩, 3⟩, ⟨⟨3, 5⟩, 3, ⟨"across"⟩, 4⟩,
        ⟨⟨4, 6⟩, 4, ⟨"behind"⟩, 5⟩] :=
    List.mergeSort_of_pairwise (by decide)
  refine ⟨l', hl', hlonger, ?_, ?_, ?_, ?_, ?_⟩
  all_goals
    simp only [paths, hscopes, hgroups]
    decide +kernel

end Match

end ScopePaint
