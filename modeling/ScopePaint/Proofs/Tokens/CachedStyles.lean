import ScopePaint.Proofs.Tokens.Nesting

/-!
# The styles that scopes keep

A scope keeps the style that the theme gave it when it was opened. That style depends on the names
of the scopes around it, and the stack it was opened in is not always the one it is seen in: the
scopes of a region and its content are shared by many tokens and lines, and those of groups are
opened inside of each other. On every stack that tokenizing under one theme gives, the style of each
scope is nonetheless the one for the scopes that are around it there (`ScopeStack.Styled`), so
putting the styles together from the outermost scope inwards gives what the theme gives to the whole
stack (`ScopeStack.Styled.merged_eq`).
-/

set_option autoImplicit false

namespace ScopePaint

/-! ## Styles of whole stacks -/

namespace Theme

/-- The innermost name is resolved inside of the others and merged last. -/
theorem go_resolveStack_concat (t : Theme) (around : List ScopeName) (effective : AttributeSet)
    (path : List ScopeName) (name : ScopeName) :
    resolveStack.go t around effective (path ++ [name]) =
      (resolveStack.go t around effective path).mergeAll
        (t.resolveScope name (around ++ path)).attributes.items := by
  induction path generalizing around effective with
  | nil => simp [resolveStack.go]
  | cons scope rest ih => simp only [List.cons_append, resolveStack.go, ih, List.append_assoc,
      List.nil_append]

/-- **One more scope inside** adds what the theme gives to it inside of all the others. -/
theorem resolveStack_concat (t : Theme) (path : List ScopeName) (name : ScopeName) :
    t.resolveStack (path ++ [name]) =
      (t.resolveStack path).mergeAll (t.resolveScope name path).attributes.items := by
  unfold resolveStack
  rw [go_resolveStack_concat, List.nil_append]

end Theme

/-- The style that a theme gives to a scope inside of others: that of its name there, or none at all
if it has no name. -/
structure Scope.StyledIn (theme : Theme) (around : ScopeStack) (s : Scope) : Prop where
  named : ∀ name, s.name = some name → s.style = theme.resolveScope name around.path
  anonymous : s.name = none →
    s.style = { attributes := .empty, inSelection := .empty, outOfSelection := .empty }

/-- A new scope has the style that its name is resolved to. -/
theorem Scope.styledIn_inside (theme : Theme) (number : Nat) (name : Option ScopeName)
    (around : ScopeStack) : (Scope.inside theme number name around).StyledIn theme around := by
  refine ⟨fun n hn => ?_, fun hn => ?_⟩
  · obtain rfl : name = some n := hn
    rfl
  · obtain rfl : name = none := hn
    rfl

namespace ScopeStack

/-- Each scope of a stack has the style that the theme gives it inside of the scopes around it. -/
def Styled (theme : Theme) (stack : ScopeStack) : Prop :=
  ∀ s around, s :: around <:+ stack → s.StyledIn theme around

/-- The attributes that the scopes of a stack keep, put together from the outermost scope inwards.
-/
def merged (stack : ScopeStack) : AttributeSet :=
  stack.reverse.foldl (fun set s => set.mergeAll s.style.attributes.items) .empty

variable {lib : Library} {id : Nat} {theme : Theme} {stack : ScopeStack}

/-- An empty stack has its styles. -/
theorem styled_nil (theme : Theme) : Styled theme [] := fun _ _ h =>
  absurd (List.suffix_nil.1 h) (List.cons_ne_nil _ _)

/-- A stack has its styles if its innermost scope and the rest have theirs. -/
theorem styled_cons {s : Scope} :
    Styled theme (s :: stack) ↔ s.StyledIn theme stack ∧ Styled theme stack := by
  constructor
  · intro h
    exact ⟨h s stack List.suffix_rfl, fun t around ht => h t around (ht.trans (List.suffix_cons _ _))⟩
  · rintro ⟨hs, h⟩ t around ht
    rcases List.suffix_cons_iff.1 ht with heq | ht
    · obtain ⟨rfl, rfl⟩ := List.cons.inj heq
      exact hs
    · exact h t around ht

/-- The innermost name stands at the end of the path. -/
theorem path_cons (s : Scope) (stack : ScopeStack) :
    path (s :: stack) = path stack ++ s.name.toList := by
  unfold path names
  cases h : s.name with
  | none => rw [List.filterMap_cons_none h]; simp
  | some name => rw [List.filterMap_cons_some h, List.reverse_cons]; rfl

/-- The attributes of the innermost scope are merged last. -/
theorem merged_cons (s : Scope) (stack : ScopeStack) :
    merged (s :: stack) = (merged stack).mergeAll s.style.attributes.items := by
  unfold merged
  rw [List.reverse_cons, List.foldl_append]
  rfl

/-- **What the scopes of a stack keep is what the theme gives to the stack.** -/
theorem Styled.merged_eq (h : stack.Styled theme) :
    stack.merged = theme.resolveStack stack.path := by
  induction stack with
  | nil => rfl
  | cons s stack ih =>
    obtain ⟨hs, hstack⟩ := styled_cons.1 h
    rw [merged_cons, path_cons, ih hstack]
    cases hname : s.name with
    | none =>
      rw [hs.anonymous hname]
      simp [AttributeSet.empty, AttributeSet.mergeAll]
    | some name =>
      rw [hs.named name hname, Option.toList_some, Theme.resolveStack_concat]

/-- Changing what is not its style or its name leaves a scope styled as it is. -/
theorem styledIn_of_same {s t : Scope} {around : ScopeStack} (h : s.StyledIn theme around)
    (hname : t.name = s.name) (hstyle : t.style = s.style) : t.StyledIn theme around where
  named := fun n hn => hstyle.trans (h.named n (hname ▸ hn))
  anonymous := fun hn => hstyle.trans (h.anonymous (hname ▸ hn))

/-- **A stack that can arise under one theme is styled by it.** -/
theorem Shaped.styled (h : Shaped lib id (fun x => x = theme) stack) : stack.Styled theme := by
  induction h with
  | root ht _ _ =>
    subst ht
    refine styled_cons.2 ⟨?_, styled_nil _⟩
    exact styledIn_of_same (Scope.styledIn_inside _ 0 _ []) rfl rfl
  | region _ ht _ _ _ _ ih =>
    subst ht
    refine styled_cons.2 ⟨?_, ih⟩
    exact styledIn_of_same (Scope.styledIn_inside _ 0 _ _) rfl rfl
  | content _ ht _ _ _ ih =>
    subst ht
    refine styled_cons.2 ⟨?_, ih⟩
    exact styledIn_of_same (Scope.styledIn_inside _ 0 _ _) rfl rfl

/-- Scopes of a match and its groups are styled for the scopes right below them. -/
theorem Topped.styled {P : ScopeStack → Prop} (h : Topped theme P stack)
    (hP : ∀ s, P s → s.Styled theme) : stack.Styled theme := by
  induction h with
  | bare h => exact hP _ h
  | inside number name _ ih => exact styled_cons.2 ⟨Scope.styledIn_inside _ _ _ _, ih⟩

end ScopeStack

/-! ## Lines -/

namespace Library

/-- **Kept styles are right.** In a state that tokenizing under one theme leads to, on the tokens of
every line that is tokenized from there and in the state behind it, each scope has the style that
the theme gives to its name inside of the named scopes around it, or none if it has no name. So the
attributes of the scopes of a token, put together from the outermost one inwards, are those that the
theme gives to the token's path. -/
theorem tokenizeLine_styled {lib lib' : Library} (hb : lib.Built) {id : Nat} {theme : Theme}
    {state : LineState} (hr : lib.Reaches id (fun x => x = theme) state) (hq : lib.Queried lib')
    (line : List Char) :
    state.stack.Styled theme ∧
      ∀ tokens next, (lib'.tokenizeLine id theme line state).1 = .ok (tokens, next) →
        (next.stack.Styled theme ∧ next.stack.merged = theme.resolveStack next.stack.path) ∧
          ∀ t ∈ tokens.tokens,
            t.scopes.Styled theme ∧ t.scopes.merged = theme.resolveStack t.scopes.path := by
  have hshaped := hr.shaped hb.sound
  refine ⟨hshaped.styled, fun tokens next hline => ?_⟩
  obtain ⟨root, -, hnested⟩ := hshaped.wellNested
  have hrooted : state.stack.Rooted lib id (fun x => x = theme) root := ⟨hshaped, hnested.outermost⟩
  obtain ⟨hnext, htokens⟩ := topped_tokenizeLine hb.sound hq (by rfl) hrooted hline
  refine ⟨⟨hnext.shaped.styled, hnext.shaped.styled.merged_eq⟩, fun t ht => ?_⟩
  have hstyled := (htokens.tokens t ht).styled fun s hs => hs.shaped.styled
  exact ⟨hstyled, hstyled.merged_eq⟩

/-- A theme that tells brackets inside of others from those that are not. -/
def innerBracketTheme : Theme :=
  ⟨"inner", [{ scope := ⟨rootScope⟩, attributes := [.italic] },
    { scope := ⟨"meta.brackets"⟩, parents := [⟨"meta.brackets"⟩], attributes := [.bold] }],
    by decide⟩

/-- The scopes inside of two brackets, of which only the inner one is bold. -/
theorem tokenizeLine_styled_brackets :
    (bracketsOpen innerBracketTheme).stack.map (fun s => s.style.attributes.items) =
        [[.bold], [], [.italic]] ∧
      (bracketsOpen innerBracketTheme).stack.Styled innerBracketTheme := by
  refine ⟨by decide +kernel, ?_⟩
  exact (tokenizeLine_styled built_bracketLibrary
    (reaches_bracketsOpen (by decide +kernel) (by decide +kernel) rfl) (.refl _) "b]".toList).1

end Library

end ScopePaint
