import Mathlib.Data.List.Range
import Mathlib.Data.Prod.Lex
import ScopePaint.Proofs.Sorting
import ScopePaint.Proofs.Theme.Overriding
import ScopePaint.Proofs.Tokens.CachedStyles

/-!
# Which setting of a theme wins

The settings that apply to a scope are merged one after the other, so for each kind of attribute the
last one that has it decides. They are merged by their ranks: the depth of the scope, then the number
of scopes wanted around, then the place in the theme, at which no two of them tie
(`Theme.pairwise_ranked`). So the setting of the greatest rank among those that apply and have the
kind decides, and in it the last attribute of the kind. Over a stack of scopes, the innermost scope
that is given an attribute of the kind decides (`Theme.resolves_to_winners`).
-/

set_option autoImplicit false

namespace ScopePaint

/-! ## The last one that has something -/

section Last

variable {α β ι : Type} [LinearOrder ι] {l : List α} {f : α → Option β}

/-- **Of elements by ascending rank, the last one that has something** is the greatest that does. -/
theorem findSome?_reverse_eq_some_iff (rank : α → ι) (h : l.Pairwise fun a b => rank a < rank b)
    {b : β} :
    l.reverse.findSome? f = some b ↔
      ∃ x ∈ l, f x = some b ∧ ∀ y ∈ l, (f y).isSome → rank y ≤ rank x := by
  rw [List.findSome?_eq_some_iff]
  constructor
  · rintro ⟨behind, x, before, hsplit, hx, hnone⟩
    have hl : l = before.reverse ++ x :: behind.reverse := by
      rw [← List.reverse_reverse l, hsplit]
      simp
    obtain ⟨-, -, hbefore⟩ := List.pairwise_append.1 (hl ▸ h)
    refine ⟨x, by rw [hl]; simp, hx, fun y hy hsome => ?_⟩
    rw [hl, List.mem_append, List.mem_cons] at hy
    rcases hy with hy | rfl | hy
    · exact (hbefore y hy x List.mem_cons_self).le
    · exact le_rfl
    · rw [hnone y (List.mem_reverse.1 hy)] at hsome
      exact absurd hsome (by simp)
  · rintro ⟨x, hx, hfx, hgreatest⟩
    obtain ⟨before, behind, rfl⟩ := List.append_of_mem hx
    refine ⟨behind.reverse, x, before.reverse, by simp, hfx, fun y hy => ?_⟩
    have hmem := List.mem_reverse.1 hy
    obtain ⟨-, hsorted, -⟩ := List.pairwise_append.1 h
    have hlt := (List.pairwise_cons.1 hsorted).1 y hmem
    by_contra hsome
    have hle := hgreatest y (List.mem_append_right _ (List.mem_cons_of_mem _ hmem))
      (Option.isSome_iff_ne_none.2 hsome)
    exact absurd hlt (not_lt.2 hle)

/-- Nothing is found from the end if there is nothing to be found. -/
theorem findSome?_reverse_eq_none_iff : l.reverse.findSome? f = none ↔ ∀ x ∈ l, f x = none := by
  rw [List.findSome?_eq_none_iff]
  simp only [List.mem_reverse]

/-- The same is found if it is the same for each element. -/
theorem findSome?_congr {g : α → Option β} (h : ∀ x ∈ l, f x = g x) :
    l.findSome? f = l.findSome? g := by
  induction l with
  | nil => rfl
  | cons x rest ih =>
    obtain ⟨hx, hrest⟩ := List.forall_mem_cons.1 h
    rw [List.findSome?_cons, List.findSome?_cons, hx, ih hrest]

end Last

/-- In a set it does not matter from which end an attribute is looked for. -/
theorem AttributeSet.find?_reverse {s : AttributeSet} (h : Distinct s.items) (kind : String) :
    (s.items.reverse.find? fun a => a.kind = kind) = s.get? kind := by
  have hreverse : Distinct s.items.reverse := by
    unfold Distinct
    rw [List.map_reverse, List.nodup_reverse]
    exact h
  apply Option.ext
  intro a
  have hfound : get? ⟨s.items.reverse⟩ kind = some a ↔ a ∈ s.items.reverse ∧ a.kind = kind :=
    get?_eq_some_iff hreverse
  rw [get?_eq_some_iff h, ← List.mem_reverse]
  exact hfound

/-! ## Settings -/

/-- When the attributes of a setting count: always, or by whether the text is selected. -/
inductive Occasion where
  | always | selected | unselected
  deriving DecidableEq, Repr

/-- The attributes that a setting gives on an occasion. -/
def ThemeSetting.on (s : ThemeSetting) : Occasion → List ThemeAttribute
  | .always => s.attributes
  | .selected => s.inSelection
  | .unselected => s.outOfSelection

/-- The attributes of a style on an occasion. -/
def ResolvedStyle.on (r : ResolvedStyle) : Occasion → AttributeSet
  | .always => r.attributes
  | .selected => r.inSelection
  | .unselected => r.outOfSelection

namespace ThemeSetting

/-- A setting applies to a scope inside of others if its own scope begins the name of that scope,
component by component, and each scope it wants around begins the name of one around. -/
def Applies (s : ThemeSetting) (scope : ScopeName) (around : List ScopeName) : Prop :=
  s.scope.components <+: scope.components ∧
    ∀ wanted ∈ s.parents, ∃ outer ∈ around, wanted.components <+: outer.components

instance (s : ThemeSetting) (scope : ScopeName) (around : List ScopeName) :
    Decidable (s.Applies scope around) :=
  inferInstanceAs (Decidable (_ ∧ _))

/-- The rank of a setting at a place of a theme: the depth of its scope counts most, then the number
of scopes it wants around, then the place. -/
def rank (s : ThemeSetting) (place : Nat) : Nat ×ₗ Nat ×ₗ Nat :=
  toLex (s.scope.depth, toLex (s.parents.length, place))

/-- The last attribute of a kind that a setting gives on an occasion. -/
def last? (s : ThemeSetting) (o : Occasion) (kind : String) : Option ThemeAttribute :=
  (s.on o).reverse.find? fun a => a.kind = kind

/-- The specificity of a setting that applies is its depth and the number of its parents. -/
theorem specificity?_eq (s : ThemeSetting) (scope : ScopeName) (around : List ScopeName) :
    s.specificity? scope around =
      if s.Applies scope around then some (s.scope.depth, s.parents.length) else none := by
  have hiff : (s.scope.isAncestorOrEqual scope = true ∧
      (s.parents.all fun wanted => around.any wanted.isAncestorOrEqual) = true) ↔
      s.Applies scope around := by
    simp only [Applies, ScopeName.isAncestorOrEqual, List.isPrefixOf_iff_prefix, List.all_eq_true,
      List.any_eq_true]
  simp only [specificity?, hiff]

end ThemeSetting

namespace Theme

/-- Whether one setting is not more specific than another. -/
def notMoreSpecific (s s' : ThemeSetting) : Bool :=
  notAbove ((s.scope.depth, s.parents.length), s) ((s'.scope.depth, s'.parents.length), s')

/-- Settings are compared by depth first and then by the number of their parents. -/
theorem notMoreSpecific_iff {s s' : ThemeSetting} : notMoreSpecific s s' = true ↔
    s.scope.depth < s'.scope.depth ∨
      s.scope.depth = s'.scope.depth ∧ s.parents.length ≤ s'.parents.length := by
  simp [notMoreSpecific, notAbove]

/-- Comparing settings carries over. -/
theorem notMoreSpecific_trans (s t u : ThemeSetting) (hst : notMoreSpecific s t = true)
    (htu : notMoreSpecific t u = true) : notMoreSpecific s u = true := by
  rw [notMoreSpecific_iff] at hst htu ⊢
  omega

/-- Of two settings one is not more specific. -/
theorem notMoreSpecific_total (s t : ThemeSetting) :
    (notMoreSpecific s t || notMoreSpecific t s) = true := by
  rw [Bool.or_eq_true, notMoreSpecific_iff, notMoreSpecific_iff]
  omega

/-- The settings that apply to a scope, with their places, by how specific they are. -/
def ranked (t : Theme) (scope : ScopeName) (around : List ScopeName) : List (ThemeSetting × Nat) :=
  (t.settings.zipIdx.filter fun e => e.1.Applies scope around).mergeSort fun e e' =>
    notMoreSpecific e.1 e'.1

section Ranked

variable (t : Theme) (scope : ScopeName) (around : List ScopeName)

/-- The settings that are ranked are those that apply, with their places. -/
theorem mem_ranked {s : ThemeSetting} {i : Nat} :
    (s, i) ∈ t.ranked scope around ↔ t.settings[i]? = some s ∧ s.Applies scope around := by
  rw [ranked, List.mem_mergeSort, List.mem_filter, List.mem_zipIdx_iff_getElem?, decide_eq_true_eq]

/-- **Settings are merged by ascending rank**; no two of them have the same one. -/
theorem pairwise_ranked :
    (t.ranked scope around).Pairwise fun e e' => e.1.rank e.2 < e'.1.rank e'.2 := by
  have hplaces := (pairwise_zipIdx t.settings 0).filter fun e => decide (e.1.Applies scope around)
  have hsorted := pairwise_mergeSort_stable
    (fun e e' : ThemeSetting × Nat => notMoreSpecific e.1 e'.1)
    (fun e e' e'' => notMoreSpecific_trans e.1 e'.1 e''.1)
    (fun e e' => notMoreSpecific_total e.1 e'.1) hplaces
  refine hsorted.imp ?_
  rintro e e' ⟨hle, hplace⟩
  rw [notMoreSpecific_iff] at hle hplace
  simp only [ThemeSetting.rank, Prod.Lex.toLex_lt_toLex]
  omega

/-- The settings that are merged are those with their places, in the same order. -/
theorem applicable_eq : t.applicable scope around = (t.ranked scope around).map (·.1) := by
  have hsettings : t.settings = t.settings.zipIdx.map (·.1) := (List.zipIdx_map_fst 0 _).symm
  have happlying : (t.settings.filterMap fun s =>
      (s.specificity? scope around).map fun n => (n, s)) =
      (t.settings.zipIdx.filter fun e => e.1.Applies scope around).map fun e =>
        ((e.1.scope.depth, e.1.parents.length), e.1) := by
    nth_rewrite 1 [hsettings]
    rw [List.filterMap_map, ← List.filterMap_eq_map, List.filterMap_filter]
    refine List.filterMap_congr fun e _ => ?_
    simp only [Function.comp_apply, ThemeSetting.specificity?_eq, decide_eq_true_eq]
    split <;> rfl
  unfold applicable ranked
  rw [happlying, ← List.map_mergeSort (r := fun e e' => notMoreSpecific e.1 e'.1)
    fun _ _ _ _ => rfl, List.map_map]
  rfl

/-- Merging settings adds the attributes of each of them. -/
theorem on_foldl_merge (r : ResolvedStyle) (settings : List ThemeSetting) (o : Occasion) :
    (settings.foldl ResolvedStyle.merge r).on o =
      (r.on o).mergeAll (settings.flatMap fun s => s.on o) := by
  induction settings generalizing r with
  | nil => rfl
  | cons s rest ih =>
    have hmerge : (r.merge s).on o = (r.on o).mergeAll (s.on o) := by cases o <;> rfl
    rw [List.foldl_cons, ih, hmerge, List.flatMap_cons]
    exact List.foldl_append.symm

/-- The last of the settings by rank that has a kind of attribute decides. -/
theorem get?_resolveScope (o : Occasion) (kind : String) :
    ((t.resolveScope scope around).on o).get? kind =
      (t.ranked scope around).reverse.findSome? fun e => e.1.last? o kind := by
  have hnone : ((({} : ResolvedStyle).on o).get? kind) = none := by cases o <;> rfl
  unfold resolveScope
  rw [applicable_eq, on_foldl_merge, AttributeSet.get?_mergeAll, hnone, Option.or_none,
    List.flatMap_map, List.reverse_flatMap, List.find?_flatMap]
  rfl

end Ranked

/-! ## Stacks -/

/-- The attribute of a kind that a theme gives to the scope at a depth of a stack, outermost scopes
first, inside of the scopes around it. -/
def attributeAt? (t : Theme) (kind : String) (stack : List ScopeName) (depth : Nat) :
    Option ThemeAttribute :=
  stack[depth]?.bind fun scope => (t.resolveScope scope (stack.take depth)).attributes.get? kind

/-- What a scope is resolved to has one attribute of each kind. -/
theorem distinct_resolveScope (t : Theme) (scope : ScopeName) (around : List ScopeName) :
    AttributeSet.Distinct (t.resolveScope scope around).attributes.items := by
  have h := on_foldl_merge {} (t.applicable scope around) .always
  unfold resolveScope
  rw [show (ResolvedStyle.attributes _) = ResolvedStyle.on _ .always from rfl, h]
  exact AttributeSet.distinct_ofList _

/-- The innermost scope of a stack that is given a kind of attribute decides. -/
theorem get?_resolveStack (t : Theme) (stack : List ScopeName) (kind : String) :
    (t.resolveStack stack).get? kind =
      (List.range stack.length).reverse.findSome? (t.attributeAt? kind stack) := by
  induction stack using List.reverseRecOn with
  | nil => rfl
  | append_singleton stack scope ih =>
    have hbelow : (List.range stack.length).reverse.findSome?
        (t.attributeAt? kind (stack ++ [scope])) =
        (List.range stack.length).reverse.findSome? (t.attributeAt? kind stack) := by
      refine findSome?_congr fun depth hdepth => ?_
      have hlt := List.mem_range.1 (List.mem_reverse.1 hdepth)
      unfold attributeAt?
      rw [List.getElem?_append_left hlt, List.take_append_of_le_length hlt.le]
    have htop : t.attributeAt? kind (stack ++ [scope]) stack.length =
        (t.resolveScope scope stack).attributes.get? kind := by
      simp [attributeAt?]
    rw [resolveStack_concat, AttributeSet.get?_mergeAll,
      AttributeSet.find?_reverse (t.distinct_resolveScope scope stack), ih, List.length_append,
      List.length_singleton, List.range_succ, List.reverse_append, List.reverse_singleton,
      List.findSome?_append, hbelow, ← htop]
    simp

/-! ## Winners -/

/-- A setting at a place of a theme wins a kind of attribute for a scope inside of others if it
applies, has an attribute of the kind, and is the greatest by rank that does. -/
structure Wins (t : Theme) (scope : ScopeName) (around : List ScopeName) (o : Occasion)
    (kind : String) (i : Nat) (s : ThemeSetting) : Prop where
  present : t.settings[i]? = some s
  applies : s.Applies scope around
  has : (s.last? o kind).isSome
  greatest : ∀ (j : Nat) (s' : ThemeSetting), t.settings[j]? = some s' → s'.Applies scope around →
    (s'.last? o kind).isSome → s'.rank j ≤ s.rank i

section Winner

variable {t : Theme} {kind : String} {a : ThemeAttribute}

/-- **The winner decides what a scope is given.** -/
theorem get?_resolveScope_eq_some_iff {scope : ScopeName} {around : List ScopeName} {o : Occasion} :
    ((t.resolveScope scope around).on o).get? kind = some a ↔
      ∃ i s, t.Wins scope around o kind i s ∧ s.last? o kind = some a := by
  rw [get?_resolveScope,
    findSome?_reverse_eq_some_iff (fun e => e.1.rank e.2) (t.pairwise_ranked scope around)]
  constructor
  · rintro ⟨⟨s, i⟩, hmem, hlast, hgreatest⟩
    obtain ⟨hs, happlies⟩ := (t.mem_ranked scope around).1 hmem
    refine ⟨i, s, ⟨hs, happlies, by rw [hlast]; rfl, fun j s' hs' happlies' hsome => ?_⟩, hlast⟩
    exact hgreatest (s', j) ((t.mem_ranked scope around).2 ⟨hs', happlies'⟩) hsome
  · rintro ⟨i, s, hwins, hlast⟩
    refine ⟨(s, i), (t.mem_ranked scope around).2 ⟨hwins.present, hwins.applies⟩, hlast, ?_⟩
    rintro ⟨s', j⟩ hmem hsome
    obtain ⟨hs', happlies'⟩ := (t.mem_ranked scope around).1 hmem
    exact hwins.greatest j s' hs' happlies' hsome

/-- A scope has no attribute of a kind if no setting that applies gives one. -/
theorem get?_resolveScope_eq_none_iff {scope : ScopeName} {around : List ScopeName} {o : Occasion} :
    ((t.resolveScope scope around).on o).get? kind = none ↔
      ∀ s ∈ t.settings, s.Applies scope around → s.last? o kind = none := by
  rw [get?_resolveScope, findSome?_reverse_eq_none_iff]
  constructor
  · intro hnone s hs happlies
    obtain ⟨i, hi⟩ := List.mem_iff_getElem?.1 hs
    exact hnone (s, i) ((t.mem_ranked scope around).2 ⟨hi, happlies⟩)
  · rintro hnone ⟨s, i⟩ hmem
    obtain ⟨hs, happlies⟩ := (t.mem_ranked scope around).1 hmem
    exact hnone s (List.mem_of_getElem? hs) happlies

/-- Nothing is given behind the innermost scope. -/
theorem attributeAt?_of_length_le {stack : List ScopeName} {depth : Nat}
    (h : stack.length ≤ depth) : t.attributeAt? kind stack depth = none := by
  rw [attributeAt?, List.getElem?_eq_none h, Option.bind_none]

/-- **The innermost scope that is given a kind of attribute decides.** -/
theorem get?_resolveStack_eq_some_iff {stack : List ScopeName} :
    (t.resolveStack stack).get? kind = some a ↔
      ∃ depth, t.attributeAt? kind stack depth = some a ∧
        ∀ inner, depth < inner → t.attributeAt? kind stack inner = none := by
  rw [get?_resolveStack, findSome?_reverse_eq_some_iff id List.pairwise_lt_range]
  constructor
  · rintro ⟨depth, -, hsome, hinnermost⟩
    refine ⟨depth, hsome, fun inner hlt => ?_⟩
    by_contra hinner
    have hinside : inner < stack.length := by
      by_contra hout
      exact hinner (attributeAt?_of_length_le (Nat.le_of_not_lt hout))
    have hle := hinnermost inner (List.mem_range.2 hinside) (Option.isSome_iff_ne_none.2 hinner)
    exact absurd hlt (Nat.not_lt.2 hle)
  · rintro ⟨depth, hsome, hinner⟩
    have hinside : depth < stack.length := by
      by_contra hout
      rw [attributeAt?_of_length_le (Nat.le_of_not_lt hout)] at hsome
      exact absurd hsome (by simp)
    refine ⟨depth, List.mem_range.2 hinside, hsome, fun inner _ hgiven => ?_⟩
    by_contra hlt
    rw [hinner inner (Nat.lt_of_not_le hlt)] at hgiven
    exact absurd hgiven (by simp)

/-- A stack has no attribute of a kind if no scope of it has one. -/
theorem get?_resolveStack_eq_none_iff {stack : List ScopeName} :
    (t.resolveStack stack).get? kind = none ↔
      ∀ depth, t.attributeAt? kind stack depth = none := by
  rw [get?_resolveStack, findSome?_reverse_eq_none_iff]
  refine ⟨fun hnone depth => ?_, fun hnone depth _ => hnone depth⟩
  rcases Nat.lt_or_ge depth stack.length with hinside | hout
  · exact hnone depth (List.mem_range.2 hinside)
  · exact attributeAt?_of_length_le hout

end Winner

/-- **A theme resolves to its winners.** For each kind of attribute, a scope inside of others is
given, on each occasion, the last attribute of the kind that the winning setting has, and none if no
setting that applies has one. A stack of scopes is given what the innermost of its scopes is given
that is given one. -/
theorem resolves_to_winners (t : Theme) (kind : String) :
    (∀ scope around o,
      (∀ a, ((t.resolveScope scope around).on o).get? kind = some a ↔
        ∃ i s, t.Wins scope around o kind i s ∧ s.last? o kind = some a) ∧
      (((t.resolveScope scope around).on o).get? kind = none ↔
        ∀ s ∈ t.settings, s.Applies scope around → s.last? o kind = none)) ∧
    ∀ stack,
      (∀ a, (t.resolveStack stack).get? kind = some a ↔
        ∃ depth, t.attributeAt? kind stack depth = some a ∧
          ∀ inner, depth < inner → t.attributeAt? kind stack inner = none) ∧
      ((t.resolveStack stack).get? kind = none ↔
        ∀ depth, t.attributeAt? kind stack depth = none) :=
  ⟨fun _ _ _ => ⟨fun _ => get?_resolveScope_eq_some_iff, get?_resolveScope_eq_none_iff⟩,
    fun _ => ⟨fun _ => get?_resolveStack_eq_some_iff, get?_resolveStack_eq_none_iff⟩⟩

end Theme

end ScopePaint
