import ScopePaint.Proofs.Tokens.TokenScopes
import ScopePaint.Theme.Default

/-!
# The nesting of scopes in a state

The stack of a state can be told from its entries alone, without knowing how it came about
(`ScopeStack.WellNested`): outermost is the scope of the grammar, and each of the others is that of
a region, or the content of the region right around it. The scope of a match or of a group is
neither (`Scope.IsPassing`), so none ever stays (`ScopeStack.WellNested.eq_of_isPassing`).

Every state that tokenizing leads to is nested like this in the scope its document began with, and
so are the tokens, but for the scopes of their match on top (`Library.reaches_wellNested`).
-/

set_option autoImplicit false

namespace ScopePaint

/-! ## Kinds of scopes -/

namespace Scope

/-- The scope around a whole document: it has the name and the rules of the grammar, and neither an
end nor the mark of a content. -/
structure IsRoot (lib : Library) (id : Nat) (s : Scope) : Prop where
  name : ∃ g, lib.grammar? id = some g ∧ s.name = some g.scopeName
  rules : (lib.rules id).1 = .ok s.rules
  stop : s.stop = none
  openedBy : s.openedBy = none
  isContent : s.isContent = false

/-- The scope of a region of the library: it has the name that the region gives, the rules inside of
the region, and an end made of that of the region. -/
structure IsRegion (lib : Library) (r : Region) (s : Scope) : Prop where
  rules : ∃ patterns, (r, patterns) ∈ lib.regions ∧ (lib.nestedRules r patterns).1 = .ok s.rules
  openedBy : s.openedBy = some r
  name : s.name = r.scope
  stop : ∃ stop line hit, s.stop = some stop ∧ r.stop.resolve line hit = .ok stop
  isContent : s.isContent = false

/-- The scope of the content of a region: it has the name that the region gives to its content, and
the rules of the region, but no end of its own. -/
structure IsContentOf (s region : Scope) (r : Region) : Prop where
  isContent : s.isContent = true
  name : ∃ name, r.content = some name ∧ s.name = some name
  rules : s.rules = region.rules
  openedBy : s.openedBy = none
  stop : s.stop = none

/-- A scope as matches and groups have them: it is not that of a region, has no end, and is not a
content. -/
structure IsPassing (s : Scope) : Prop where
  openedBy : s.openedBy = none
  stop : s.stop = none
  isContent : s.isContent = false

/-- The scope of a match passes. -/
theorem isPassing_inside (theme : Theme) (number : Nat) (name : Option ScopeName)
    (around : ScopeStack) : (Scope.inside theme number name around).IsPassing :=
  ⟨rfl, rfl, rfl⟩

/-- The scope of a region does not pass. -/
theorem IsRegion.not_isPassing {lib : Library} {r : Region} {s : Scope} (h : s.IsRegion lib r) :
    ¬ s.IsPassing := by
  intro hpassing
  exact absurd (h.openedBy.symm.trans hpassing.openedBy) (by simp)

/-- Neither does the scope of its content. -/
theorem IsContentOf.not_isPassing {s region : Scope} {r : Region} (h : s.IsContentOf region r) :
    ¬ s.IsPassing := by
  intro hpassing
  exact absurd (h.isContent.symm.trans hpassing.isContent) (by simp)

end Scope

/-! ## Stacks -/

namespace ScopeStack

/-- A stack with a given scope outermost, all others of which are scopes of regions or contents of
the regions right around them. -/
structure WellNested (lib : Library) (root : Scope) (stack : ScopeStack) : Prop where
  outermost : stack.getLast? = some root
  inner : ∀ s below, s :: below <:+ stack → below ≠ [] →
    (∃ r, s.IsRegion lib r) ∨
      ∃ region r, below.head? = some region ∧ region.IsRegion lib r ∧ s.IsContentOf region r

variable {lib : Library} {id : Nat} {themes : Theme → Prop} {theme : Theme} {root : Scope}
  {stack : ScopeStack}

/-- **The only passing scope that stays** may be the outermost one. -/
theorem WellNested.eq_of_isPassing (h : stack.WellNested lib root) {s : Scope} (hs : s ∈ stack)
    (hpassing : s.IsPassing) : s = root := by
  obtain ⟨front, below, rfl⟩ := List.append_of_mem hs
  cases below with
  | nil => exact Option.some.inj ((List.getLast?_concat ..).symm.trans h.outermost)
  | cons next below =>
    rcases h.inner s (next :: below) (List.suffix_append _ _) (List.cons_ne_nil _ _) with
      ⟨r, hr⟩ | ⟨region, r, -, -, hcontent⟩
    · exact absurd hpassing hr.not_isPassing
    · exact absurd hpassing hcontent.not_isPassing

/-- One more scope on top keeps a stack well nested if it fits there. -/
theorem WellNested.cons (h : stack.WellNested lib root) {s : Scope}
    (hs : (∃ r, s.IsRegion lib r) ∨
      ∃ region r, stack.head? = some region ∧ region.IsRegion lib r ∧ s.IsContentOf region r) :
    WellNested lib root (s :: stack) := by
  refine ⟨?_, fun t below hsuffix hne => ?_⟩
  · cases stack with
    | nil => exact absurd h.outermost (by simp)
    | cons top below => rw [List.getLast?_cons_cons, h.outermost]
  · rcases List.suffix_cons_iff.1 hsuffix with heq | hsuffix
    · obtain ⟨rfl, rfl⟩ := List.cons.inj heq
      exact hs
    · exact h.inner t below hsuffix hne

/-- The scope of a region is found by what it was opened by. -/
theorem Shaped.isRegion_head {top : Scope} {below : ScopeStack}
    (h : Shaped lib id themes (top :: below)) {r : Region} (hr : top.openedBy = some r) :
    top.IsRegion lib r := by
  cases h with
  | root _ _ _ => exact absurd hr (by simp [Scope.inside])
  | region _ _ _ hknown hstop hrules =>
    obtain rfl := Option.some.inj hr
    obtain ⟨line, hit, hstop⟩ := hstop
    exact ⟨⟨_, hknown, hrules⟩, rfl, rfl, ⟨_, line, hit, rfl, hstop⟩, rfl⟩
  | content _ _ _ _ _ => exact absurd hr (by simp [Scope.inside])

/-- **A stack that can arise is well nested** in a scope around the whole document. -/
theorem Shaped.wellNested (h : Shaped lib id themes stack) :
    ∃ root, root.IsRoot lib id ∧ stack.WellNested lib root := by
  induction h with
  | @root theme g rules _ hg hrules =>
    refine ⟨_, ⟨⟨g, hg, rfl⟩, hrules, rfl, rfl, rfl⟩, rfl, fun s below hsuffix hne => ?_⟩
    rcases List.suffix_cons_iff.1 hsuffix with heq | hnil
    · exact absurd (List.cons.inj heq).2 hne
    · exact absurd (List.suffix_nil.1 hnil) (List.cons_ne_nil _ _)
  | region hbelow ht hnumber hr hstop hrules ih =>
    obtain ⟨root, hroot, hnested⟩ := ih
    exact ⟨root, hroot, hnested.cons
      (Or.inl ⟨_, (hbelow.region ht hnumber hr hstop hrules).isRegion_head rfl⟩)⟩
  | @content theme number r name top below hbelow _ _ hr hname ih =>
    obtain ⟨root, hroot, hnested⟩ := ih
    exact ⟨root, hroot, hnested.cons (Or.inr ⟨top, r, rfl, hbelow.isRegion_head hr,
      ⟨rfl, ⟨name, hname, rfl⟩, rfl, rfl, rfl⟩⟩)⟩

/-- A rooted stack is well nested. -/
theorem Rooted.wellNested (h : stack.Rooted lib id themes root) : stack.WellNested lib root := by
  obtain ⟨root', -, hnested⟩ := h.shaped.wellNested
  obtain rfl := Option.some.inj (hnested.outermost.symm.trans h.outermost)
  exact hnested

/-- The scopes on top of a stack are passing. -/
theorem Topped.exists_passing {P : ScopeStack → Prop} (h : Topped theme P stack) :
    ∃ passing below, stack = passing ++ below ∧ (∀ s ∈ passing, s.IsPassing) ∧ P below := by
  induction h with
  | @bare stack hstack => exact ⟨[], stack, rfl, by simp, hstack⟩
  | @inside stack number name _ ih =>
    obtain ⟨passing, below, rfl, hpassing, hbelow⟩ := ih
    exact ⟨_ :: passing, below, rfl,
      List.forall_mem_cons.2 ⟨Scope.isPassing_inside _ _ _ _, hpassing⟩, hbelow⟩

end ScopeStack

/-! ## States -/

namespace Library

/-- **States are well nested.** In a state that tokenizing leads to, the outermost scope is that of
the grammar, and each of the others is the scope of a region or the content of the region right
around it; no scope of a match or of a group is among them. Whatever line is tokenized from there,
the state behind it is nested like this in the very same scope, and each of its tokens lies in such
a stack, with nothing but scopes of a match and its groups on top. -/
theorem reaches_wellNested {lib : Library} (hb : lib.Built) {id : Nat} {state : LineState}
    (hr : lib.Reaches id (fun _ => True) state) :
    ∃ root : Scope, root.IsRoot lib id ∧ state.stack.WellNested lib root ∧
      (∀ s ∈ state.stack, s.IsPassing → s = root) ∧
      ∀ (lib' : Library) (theme : Theme) (line : List Char) (tokens : TokenLine)
        (next : LineState), lib.Queried lib' →
        (lib'.tokenizeLine id theme line state).1 = .ok (tokens, next) →
          next.stack.WellNested lib root ∧
          (∀ s ∈ next.stack, s.IsPassing → s = root) ∧
          ∀ t ∈ tokens.tokens, t.scopes.getLast? = some root ∧
            ∃ passing below, t.scopes = passing ++ below ∧ (∀ s ∈ passing, s.IsPassing) ∧
              ScopeStack.WellNested lib root below := by
  have hshaped := hr.shaped hb.sound
  obtain ⟨root, hroot, hnested⟩ := hshaped.wellNested
  refine ⟨root, hroot, hnested, fun s => hnested.eq_of_isPassing, ?_⟩
  intro lib' theme line tokens next hq hline
  obtain ⟨hnext, htokens⟩ :=
    topped_tokenizeLine hb.sound hq trivial ⟨hshaped, hnested.outermost⟩ hline
  refine ⟨hnext.wellNested, fun s => hnext.wellNested.eq_of_isPassing, fun t ht => ?_⟩
  obtain ⟨passing, below, hscopes, hpassing, hbelow⟩ := (htokens.tokens t ht).exists_passing
  refine ⟨?_, passing, below, hscopes, hpassing, hbelow.wellNested⟩
  rw [hscopes, List.getLast?_append_of_ne_nil passing hbelow.shaped.ne_nil, hbelow.outermost]

/-- The state behind a line of brackets, two of which are left open. -/
def bracketsOpen (theme : Theme) : LineState :=
  match (bracketLibrary.tokenizeLine 0 theme "[[a".toList (bracketStart theme)).1 with
  | .ok (_, next) => next
  | .error _ => ⟨[]⟩

/-- The state with two open brackets is reached. -/
theorem reaches_bracketsOpen {theme : Theme} {themes : Theme → Prop}
    (hok : (bracketLibrary.firstLineState 0 theme).1.isOk = true)
    (hline : (bracketLibrary.tokenizeLine 0 theme "[[a".toList (bracketStart theme)).1.isOk = true)
    (ht : themes theme) : bracketLibrary.Reaches 0 themes (bracketsOpen theme) := by
  obtain ⟨result, h⟩ := exists_of_isOk hline
  unfold bracketsOpen
  rw [h]
  exact .next (reaches_bracketStart hok ht) (.refl _) ht h

/-- Inside of two brackets there are three scopes, the two inner ones of regions. -/
theorem reaches_wellNested_brackets :
    (bracketsOpen Theme.builtin).stack.length = 3 ∧
      ∃ root : Scope, root.IsRoot bracketLibrary 0 ∧
        (bracketsOpen Theme.builtin).stack.WellNested bracketLibrary root := by
  refine ⟨by decide +kernel, ?_⟩
  have hreached : bracketLibrary.Reaches 0 (fun _ => True) (bracketsOpen Theme.builtin) :=
    reaches_bracketsOpen (by decide +kernel) (by decide +kernel) trivial
  obtain ⟨root, hroot, hnested, -⟩ := reaches_wellNested built_bracketLibrary hreached
  exact ⟨root, hroot, hnested⟩

end Library

end ScopePaint
