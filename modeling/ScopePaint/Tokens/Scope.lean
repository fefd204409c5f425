import ScopePaint.Library
import ScopePaint.Theme.Theme

/-!
Scopes around a place in a document.

A scope is one level of nesting. Its style is found once, when it is opened, so that all tokens in
it share it; the number of a scope tells it apart from others with the same name. A stack of scopes
is a list from the innermost scope outwards. The stack at the end of a line is where the next line
starts.
-/

set_option autoImplicit false

namespace ScopePaint

/-- A level of nesting: the rules that can apply while it is innermost, what ends it if it is a
region, and whether it is the content between the ends of the region around it. -/
structure Scope where
  number : Nat
  name : Option ScopeName
  rules : List Rule := []
  stop : Option Regex := none
  openedBy : Option Region := none
  isContent : Bool := false
  style : ResolvedStyle := {}

/-- Scopes from the innermost one outwards. -/
abbrev ScopeStack := List Scope

namespace ScopeStack

/-- The names in a stack, from the innermost one outwards; scopes without one do not count. -/
def names (s : ScopeStack) : List ScopeName := s.filterMap (·.name)

/-- The names in a stack, from the outermost one inwards. -/
def path (s : ScopeStack) : List ScopeName := (names s).reverse

/-- A number that no scope of a stack has. -/
def freshNumber (s : ScopeStack) : Nat := s.foldl (fun n scope => max n (scope.number + 1)) 0

end ScopeStack

namespace Scope

/-- The style of a scope inside of others. -/
def styleOf (theme : Theme) (name : Option ScopeName) (around : ScopeStack) : ResolvedStyle :=
  match name with
  | some name => theme.resolveScope name around.path
  | none => {}

/-- Open a scope inside of others. -/
def inside (theme : Theme) (number : Nat) (name : Option ScopeName) (around : ScopeStack) : Scope :=
  { number, name, style := styleOf theme name around }

/-- Whether two scopes have the same name, are the same region and end in the same way. -/
def isEquivalent (a b : Scope) : Bool :=
  a.name == b.name && a.isContent == b.isContent
    && a.openedBy.map (·.place) == b.openedBy.map (·.place)
    && a.stop.map (·.source) == b.stop.map (·.source)

end Scope

/-- Where a line starts: the scopes around it. -/
structure LineState where
  stack : ScopeStack

namespace LineState

/-- Whether what follows would be tokenized in the same way. -/
def isEquivalent (a b : LineState) : Bool := a.stack.isEqv b.stack Scope.isEquivalent

/-- Where a document in the grammar `g` starts, whose rules are given. -/
def first (theme : Theme) (g : Grammar) (rules : List Rule) : LineState :=
  ⟨[{ Scope.inside theme 0 (some g.scopeName) [] with rules := rules }]⟩

end LineState

end ScopePaint
