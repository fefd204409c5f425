import Mathlib.Data.List.Forall2
import Mathlib.Logic.Relator
import ScopePaint.Proofs.Grammar.Renumbering
import ScopePaint.Proofs.Outcome
import ScopePaint.Proofs.Tokens.StackShape

/-!
# Scopes and tokens that are alike

Two scopes are alike if they differ at most in their numbers, in their styles, and in the numbers of
the grammars that their rules and regions stand in. The numbers of scopes are told apart only by
whether they are equal, so it is enough that they are paired one to one by a relation `R`. The
styles are the same where a condition `same` says that the themes are. A function `f` gives the other
numbers of the grammars; within one library it is the identity. Stacks and tokens are alike if their
parts are.

What the groups of a match make of stacks that are alike are tokens that are alike
(`captureTokens_alike`), and a line of tokens takes them up or refuses them just as one that is
alike does (`TokenLine.mergeAll?_alike`).
-/

set_option autoImplicit false

namespace ScopePaint

open Text (byteLength)

/-! ## Scopes -/

/-- Scopes that differ at most in their numbers, in their styles, and in the numbers of grammars. -/
structure Scope.Alike (f : Nat → Nat) (R : Nat → Nat → Prop) (same : Prop) (s t : Scope) :
    Prop where
  number : R s.number t.number
  name : s.name = t.name
  rules : t.rules = s.rules.map (Rule.renumber f)
  stop : s.stop = t.stop
  openedBy : t.openedBy = s.openedBy.map (Region.renumber f)
  isContent : s.isContent = t.isContent
  style : same → s.style = t.style

/-- Stacks of such scopes. -/
abbrev ScopeStack.Alike (f : Nat → Nat) (R : Nat → Nat → Prop) (same : Prop) :
    ScopeStack → ScopeStack → Prop :=
  List.Forall₂ (Scope.Alike f R same)

/-- Numbers from which on all numbers are paired. -/
def Fresh (R : Nat → Nat → Prop) (n m : Nat) : Prop := ∀ k, R (n + k) (m + k)

section Alike

variable {f : Nat → Nat} {R : Nat → Nat → Prop} {same : Prop} {theme theme' : Theme} {n m : Nat}

/-- The next numbers belong together. -/
theorem Fresh.rel (h : Fresh R n m) : R n m := h 0

/-- So do all numbers behind them. -/
theorem Fresh.add (h : Fresh R n m) (k : Nat) : Fresh R (n + k) (m + k) := by
  intro i
  rw [Nat.add_assoc, Nat.add_assoc]
  exact h (k + i)

/-- Lists of related elements have the same images if related elements have. -/
theorem map_eq_map_of_forall₂ {α β γ : Type} {r : α → β → Prop} {g : α → γ} {h : β → γ}
    {xs : List α} {ys : List β} (hall : List.Forall₂ r xs ys) (hgh : ∀ a b, r a b → g a = h b) :
    xs.map g = ys.map h := by
  induction hall with
  | nil => rfl
  | cons hab _ ih => rw [List.map_cons, List.map_cons, hgh _ _ hab, ih]

namespace ScopeStack.Alike

variable {s t : ScopeStack}

/-- Stacks that are alike have the same names. -/
theorem map_name (h : ScopeStack.Alike f R same s t) : s.map (·.name) = t.map (·.name) :=
  map_eq_map_of_forall₂ h fun _ _ hab => hab.name

/-- They have the same path. -/
theorem path (h : ScopeStack.Alike f R same s t) : s.path = t.path := by
  have hnames : s.names = t.names := by
    have hid : ∀ stack : ScopeStack, stack.names = (stack.map (·.name)).filterMap id :=
      fun stack => by rw [List.filterMap_map]; rfl
    rw [hid, hid, h.map_name]
  unfold ScopeStack.path
  rw [hnames]

/-- Their parts up to a region are alike. -/
theorem regionPart (h : ScopeStack.Alike f R same s t) :
    ScopeStack.Alike f R same s.regionPart t.regionPart := by
  cases h with
  | nil => exact .nil
  | cons htop hbelow =>
    unfold ScopeStack.regionPart
    dsimp only
    rw [htop.isContent]
    split
    · exact hbelow
    · exact .cons htop hbelow

end ScopeStack.Alike

/-- A style depends on the theme, and on the names of the scopes. -/
theorem Scope.styleOf_eq (htheme : same → theme = theme') {s t : ScopeStack}
    (h : ScopeStack.Alike f R same s t) (name : Option ScopeName) :
    same → styleOf theme name s = styleOf theme' name t := by
  intro hsame
  unfold styleOf
  rw [htheme hsame, h.path]

/-- Scopes that are opened with one name inside of stacks that are alike are alike. -/
theorem Scope.inside_alike (htheme : same → theme = theme') (hnumber : R n m) {s t : ScopeStack}
    (h : ScopeStack.Alike f R same s t) (name : Option ScopeName) :
    Scope.Alike f R same (Scope.inside theme n name s) (Scope.inside theme' m name t) where
  number := hnumber
  name := rfl
  rules := rfl
  stop := rfl
  openedBy := rfl
  isContent := rfl
  style := Scope.styleOf_eq htheme h name

/-! ## Tokens -/

/-- Tokens of the same range with scopes that are alike. -/
structure Token.Alike (f : Nat → Nat) (R : Nat → Nat → Prop) (same : Prop) (t u : Token) :
    Prop where
  range : t.range = u.range
  scopes : ScopeStack.Alike f R same t.scopes u.scopes

abbrev TokensAlike (f : Nat → Nat) (R : Nat → Nat → Prop) (same : Prop) :
    List Token → List Token → Prop :=
  List.Forall₂ (Token.Alike f R same)

/-- Lines of tokens that are alike. -/
def TokenLine.Alike (f : Nat → Nat) (R : Nat → Nat → Prop) (same : Prop) (l l' : TokenLine) :
    Prop :=
  TokensAlike f R same l.latest l'.latest

/-- **Having the same scopes is a matter of the pairing of numbers**, as long as that is one to
one. -/
theorem Token.hasSameScopes_alike (hR : Relator.BiUnique R) {t t' u u' : Token}
    (ht : Token.Alike f R same t t') (hu : Token.Alike f R same u u') :
    t.hasSameScopes u = t'.hasSameScopes u' := by
  have hnumbers : ∀ {s s' : ScopeStack}, ScopeStack.Alike f R same s s' →
      List.Forall₂ R (s.map (·.number)) (s'.map (·.number)) := fun h =>
    List.rel_map (fun _ _ hab => hab.number) h
  have hiff := Relator.rel_eq hR.forall₂ (hnumbers ht.scopes) (hnumbers hu.scopes)
  unfold Token.hasSameScopes
  rw [Bool.eq_iff_iff, beq_iff_eq, beq_iff_eq]
  exact hiff

/-- Tokens with stacks that are alike are alike. -/
theorem tokenOf_alike (start stop : Nat) {s t : ScopeStack} (h : ScopeStack.Alike f R same s t) :
    TokensAlike f R same (tokenOf start stop s) (tokenOf start stop t) := by
  unfold tokenOf
  split
  · exact .cons ⟨rfl, h⟩ .nil
  · exact .nil

namespace TokenLine

variable {l l' : TokenLine}

/-- Lines without tokens are alike. -/
theorem Alike.empty : TokenLine.Alike f R same .empty .empty := .nil

/-- The tokens of lines that are alike are alike. -/
theorem Alike.tokens (h : l.Alike f R same l') : TokensAlike f R same l.tokens l'.tokens :=
  List.rel_reverse h

/-- Lines that are alike are equally long. -/
theorem Alike.length (h : l.Alike f R same l') : l.length = l'.length := by
  obtain ⟨latest⟩ := l
  obtain ⟨latest'⟩ := l'
  cases h with
  | nil => rfl
  | cons ht _ => exact congrArg Text.Span.stop ht.range

/-- They stay alike without an empty token at the end. -/
theorem Alike.dropEmptyEnd (h : l.Alike f R same l') :
    l.dropEmptyEnd.Alike f R same l'.dropEmptyEnd := by
  obtain ⟨latest⟩ := l
  obtain ⟨latest'⟩ := l'
  cases h with
  | nil => exact .nil
  | cons ht hrest =>
    unfold TokenLine.dropEmptyEnd
    dsimp only
    rw [ht.range]
    split
    · exact hrest
    · exact .cons ht hrest

/-- A token is added to both of two lines that are alike, or to neither. -/
theorem add?_alike (h : l.Alike f R same l') {t t' : Token} (ht : Token.Alike f R same t t') :
    Option.Rel (TokenLine.Alike f R same) (l.add? t) (l'.add? t') := by
  have hdrop := h.dropEmptyEnd
  unfold add?
  dsimp only
  rw [ht.range, hdrop.length]
  split
  · exact .some (.cons ht hdrop)
  · exact .none

/-- Lines that are alike stay so when tokens that are alike are merged into them. -/
theorem merge?_alike (hR : Relator.BiUnique R) (h : l.Alike f R same l') {t t' : Token}
    (ht : Token.Alike f R same t t') :
    Option.Rel (TokenLine.Alike f R same) (l.merge? t) (l'.merge? t') := by
  have hdrop := h.dropEmptyEnd
  have hadd := add?_alike hdrop ht
  unfold merge?
  rw [ht.range]
  split
  · exact .some h
  · dsimp only
    revert hdrop hadd
    obtain ⟨latest⟩ := l.dropEmptyEnd
    obtain ⟨latest'⟩ := l'.dropEmptyEnd
    intro hdrop hadd
    cases hdrop with
    | nil => exact hadd
    | cons hlast hrest =>
      dsimp only
      rw [hlast.range, Token.hasSameScopes_alike hR hlast ht]
      split
      · exact .some (.cons ⟨rfl, hlast.scopes⟩ hrest)
      · exact hadd

/-- **Tokens that are alike are taken up by both of two lines that are alike, or by neither.** -/
theorem mergeAll?_alike (hR : Relator.BiUnique R) (h : l.Alike f R same l')
    {tokens tokens' : List Token} (ht : TokensAlike f R same tokens tokens') :
    Option.Rel (TokenLine.Alike f R same) (l.mergeAll? tokens) (l'.mergeAll? tokens') := by
  unfold mergeAll?
  induction ht generalizing l l' with
  | nil => exact .some h
  | cons htoken _ ih =>
    rw [List.foldlM_cons, List.foldlM_cons]
    have hfirst := merge?_alike hR h htoken
    cases hl : l.merge? _ <;> cases hl' : l'.merge? _ <;> rw [hl, hl'] at hfirst <;> cases hfirst
    · exact .none
    · rename_i hnext
      exact ih hnext

end TokenLine

/-! ## Groups -/

/-- Groups that differ only in the numbers of their scopes. -/
structure NamedGroup.Alike (R : Nat → Nat → Prop) (g h : NamedGroup) : Prop where
  range : g.range = h.range
  name : g.name = h.name
  number : R g.number h.number

/-- Open groups with the same end and scopes that are alike. -/
structure OpenGroup.Alike (f : Nat → Nat) (R : Nat → Nat → Prop) (same : Prop)
    (g h : OpenGroup) : Prop where
  stop : g.stop = h.stop
  stack : ScopeStack.Alike f R same g.stack h.stack

/-- The order of groups does not depend on the numbers of their scopes. -/
theorem NamedGroup.ofCaptures_eq_map (hit : Match) (captures : Captures) (number : Nat) :
    ofCaptures hit captures number =
      (ofCaptures hit captures 0).map fun g => { g with number := number + g.number } := by
  have hsort := fun groups => List.map_mergeSort (r := notAfter) (s := notAfter)
    (f := fun g : NamedGroup => { g with number := number + g.number }) (l := groups)
    fun _ _ _ _ => rfl
  unfold ofCaptures
  rw [hsort, List.map_filterMap]
  congr 1
  refine List.filterMap_congr fun entry _ => ?_
  dsimp only
  split
  · rfl
  · cases hit.group entry.1.1 with
    | none => rfl
    | some range =>
      dsimp only [Option.bind_some]
      split
      · simp
      · rfl

/-- The groups of a match are alike under new numbers. -/
theorem NamedGroup.ofCaptures_alike (hfresh : Fresh R n m) (hit : Match) (captures : Captures) :
    List.Forall₂ (NamedGroup.Alike R) (ofCaptures hit captures n) (ofCaptures hit captures m) := by
  rw [ofCaptures_eq_map hit captures n, ofCaptures_eq_map hit captures m, List.forall₂_map_left_iff,
    List.forall₂_map_right_iff]
  exact List.forall₂_same.2 fun g _ => ⟨rfl, rfl, hfresh g.number⟩

/-- Closing groups that are alike gives tokens that are alike. -/
theorem closeGroups_alike (limit cursor : Nat) {opened opened' : List OpenGroup}
    (h : List.Forall₂ (OpenGroup.Alike f R same) opened opened') :
    TokensAlike f R same (closeGroups limit cursor opened).1 (closeGroups limit cursor opened').1 ∧
      (closeGroups limit cursor opened).2.1 = (closeGroups limit cursor opened').2.1 ∧
      List.Forall₂ (OpenGroup.Alike f R same) (closeGroups limit cursor opened).2.2
        (closeGroups limit cursor opened').2.2 := by
  induction h generalizing cursor with
  | nil => exact ⟨.nil, rfl, .nil⟩
  | cons hg hrest ih =>
    rw [closeGroups, closeGroups, hg.stop]
    split
    · obtain ⟨htokens, hcursor, hleft⟩ := ih (OpenGroup.stop _)
      exact ⟨List.rel_append (tokenOf_alike _ _ hg.stack) htokens, hcursor, hleft⟩
    · exact ⟨.nil, rfl, .cons hg hrest⟩

/-- So does closing all of them. -/
theorem closeAll_alike (cursor : Nat) {opened opened' : List OpenGroup}
    (h : List.Forall₂ (OpenGroup.Alike f R same) opened opened') :
    TokensAlike f R same (closeAll cursor opened).1 (closeAll cursor opened').1 ∧
      (closeAll cursor opened).2 = (closeAll cursor opened').2 := by
  induction h generalizing cursor with
  | nil => exact ⟨.nil, rfl⟩
  | cons hg _ ih =>
    obtain ⟨htokens, hcursor⟩ := ih (OpenGroup.stop _)
    rw [closeAll, closeAll, hg.stop]
    exact ⟨List.rel_append (tokenOf_alike _ _ hg.stack) htokens, hcursor⟩

/-- Groups that are alike make tokens that are alike. -/
theorem groupTokens_alike (htheme : same → theme = theme') {base base' : ScopeStack}
    (hbase : ScopeStack.Alike f R same base base') (stop cursor : Nat)
    {opened opened' : List OpenGroup}
    (hopened : List.Forall₂ (OpenGroup.Alike f R same) opened opened')
    {groups groups' : List NamedGroup}
    (hgroups : List.Forall₂ (NamedGroup.Alike R) groups groups') :
    TokensAlike f R same (groupTokens theme base stop cursor opened groups)
      (groupTokens theme' base' stop cursor opened' groups') := by
  induction hgroups generalizing cursor opened opened' with
  | nil =>
    obtain ⟨htokens, hcursor⟩ := closeAll_alike cursor hopened
    rw [groupTokens, groupTokens]
    dsimp only
    rw [hcursor]
    exact List.rel_append htokens (tokenOf_alike _ _ hbase)
  | @cons g g' rest rest' hg hrest ih =>
    obtain ⟨htokens, hcursor, hleft⟩ := closeGroups_alike g.range.start cursor hopened
    rw [groupTokens, groupTokens, ← hg.range]
    dsimp only
    refine List.rel_append htokens ?_
    rw [hcursor]
    revert hleft
    generalize (closeGroups g.range.start cursor opened).2.2 = left
    generalize (closeGroups g.range.start cursor opened').2.2 = left'
    intro hleft
    have hstep : ∀ {outer outer' : ScopeStack}, ScopeStack.Alike f R same outer outer' →
        OpenGroup.Alike f R same
          ⟨g.range.stop, Scope.inside theme g.number (some g.name) outer :: outer⟩
          ⟨g.range.stop, Scope.inside theme' g'.number (some g'.name) outer' :: outer'⟩ := by
      intro outer outer' houter
      rw [hg.name]
      exact ⟨rfl, .cons (Scope.inside_alike htheme hg.number houter _) houter⟩
    cases hleft with
    | nil =>
      exact List.rel_append (tokenOf_alike _ _ hbase) (ih _ (.cons (hstep hbase) .nil))
    | @cons o o' others others' ho hothers =>
      simp only [List.head?_cons, Option.any_some, ho.stop, decide_eq_true_eq]
      by_cases hacross : o'.stop < g.range.stop
      · rw [if_pos hacross, if_pos hacross]
        exact ih _ (.cons ho hothers)
      · rw [if_neg hacross, if_neg hacross]
        exact List.rel_append (tokenOf_alike _ _ ho.stack)
          (ih _ (.cons (hstep ho.stack) (.cons ho hothers)))

/-- Stacks for a whole match are alike on stacks that are alike. -/
theorem wholeStack_alike (htheme : same → theme = theme') (hfresh : Fresh R n m)
    {s t : ScopeStack} (h : ScopeStack.Alike f R same s t) (captures : Captures) :
    ScopeStack.Alike f R same (wholeStack theme n s captures) (wholeStack theme' m t captures) := by
  induction captures generalizing n m s t with
  | nil => exact h
  | cons capture rest ih =>
    obtain ⟨index, name⟩ := capture
    rw [wholeStack, wholeStack]
    split
    · exact ih (hfresh.add 1) (.cons (Scope.inside_alike htheme hfresh.rel h _) h)
    · exact ih (hfresh.add 1) h

/-- **A match makes tokens that are alike of stacks that are alike.** -/
theorem captureTokens_alike (htheme : same → theme = theme') (hfresh : Fresh R n m)
    {s t : ScopeStack} (h : ScopeStack.Alike f R same s t) (length : Nat) (hit : Match)
    (captures : Captures) :
    TokensAlike f R same (captureTokens theme length hit s captures n)
      (captureTokens theme' length hit t captures m) := by
  unfold captureTokens
  split
  · exact .nil
  · exact groupTokens_alike htheme (wholeStack_alike htheme hfresh h captures) _ _ .nil
      (NamedGroup.ofCaptures_alike hfresh hit captures)

end Alike

end ScopePaint
