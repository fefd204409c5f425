import ScopePaint.ScopeName
import ScopePaint.Theme.Attribute
import ScopePaint.Theme.Error

/-!
Themes and how they style scopes.

A setting applies to a scope if its own scope is the scope or above it, and each scope it wants
around it is one of the scopes around, or above one of them. Of several settings that apply, those
with deeper scopes count more, then those that want more scopes around them, then later ones; for
each kind of attribute the one that counts most and has it decides. Every theme has a setting for
the root scope, so that nothing goes without styling.
-/

set_option autoImplicit false

namespace ScopePaint

/-- The scope that every theme styles. -/
def rootScope : String := "source"

/-- One rule of a theme: what it applies to, and the attributes it gives, always and by whether the
text is selected. -/
structure ThemeSetting where
  scope : ScopeName
  parents : List ScopeName := []
  attributes : List ThemeAttribute := []
  inSelection : List ThemeAttribute := []
  outOfSelection : List ThemeAttribute := []
  deriving DecidableEq, Repr

namespace ThemeSetting

/-- How specific a setting is for a scope inside of other scopes, if it applies: the depth of its
scope and the number of scopes it wants around. -/
def specificity? (s : ThemeSetting) (scope : ScopeName) (around : List ScopeName) :
    Option (Nat × Nat) :=
  if s.scope.isAncestorOrEqual scope
      ∧ s.parents.all (fun wanted => around.any wanted.isAncestorOrEqual) then
    some (s.scope.depth, s.parents.length)
  else none

/-- Whether this is a setting for the root scope. -/
def isRoot (s : ThemeSetting) : Bool := s.parents.isEmpty && s.scope.text == rootScope

/-- Equality of settings, with numbers compared as numbers. -/
def eqv (s t : ThemeSetting) : Bool :=
  s.scope == t.scope && s.parents == t.parents
    && s.attributes.isEqv t.attributes ThemeAttribute.eqv
    && s.inSelection.isEqv t.inSelection ThemeAttribute.eqv
    && s.outOfSelection.isEqv t.outOfSelection ThemeAttribute.eqv

end ThemeSetting

/-- The attributes of a scope, always and by whether the text is selected. -/
structure ResolvedStyle where
  attributes : AttributeSet := {}
  inSelection : AttributeSet := {}
  outOfSelection : AttributeSet := {}
  deriving DecidableEq, Repr

/-- Add the attributes of a setting. -/
def ResolvedStyle.merge (r : ResolvedStyle) (s : ThemeSetting) : ResolvedStyle :=
  ⟨r.attributes.mergeAll s.attributes, r.inSelection.mergeAll s.inSelection,
    r.outOfSelection.mergeAll s.outOfSelection⟩

/-- A named list of settings, one of them for the root scope. -/
structure Theme where
  name : String
  settings : List ThemeSetting
  hasRoot : settings.any ThemeSetting.isRoot = true

namespace Theme

/-- Make a theme of settings, one of which has to be for the root scope. -/
def ofSettings (name : String) (settings : List ThemeSetting) : Except ThemeError Theme :=
  if h : settings.any ThemeSetting.isRoot = true then .ok ⟨name, settings, h⟩
  else .error (.missingRootSetting name)

/-- Whether one specificity is not above another. -/
def notAbove (a b : (Nat × Nat) × ThemeSetting) : Bool :=
  a.1.1 < b.1.1 || (a.1.1 == b.1.1 && a.1.2 ≤ b.1.2)

/-- The settings that apply to a scope inside of others, the most specific last; equally specific
ones stay in order. -/
def applicable (t : Theme) (scope : ScopeName) (around : List ScopeName) : List ThemeSetting :=
  ((t.settings.filterMap fun s => (s.specificity? scope around).map fun n => (n, s)).mergeSort
    notAbove).map (·.2)

/-- The style of a scope inside of others. -/
def resolveScope (t : Theme) (scope : ScopeName) (around : List ScopeName) : ResolvedStyle :=
  (t.applicable scope around).foldl ResolvedStyle.merge {}

/-- The attributes of text inside of all scopes of a stack, whether selected or not. Inner scopes
count more. -/
def resolveStack (t : Theme) (stack : List ScopeName) : AttributeSet :=
  go [] {} stack
where
  go (around : List ScopeName) (effective : AttributeSet) : List ScopeName → AttributeSet
    | [] => effective
    | scope :: rest =>
      go (around ++ [scope]) (effective.mergeAll (t.resolveScope scope around).attributes.items)
        rest

/-- Equality of themes, with numbers compared as numbers. -/
def eqv (t u : Theme) : Bool := t.name == u.name && t.settings.isEqv u.settings ThemeSetting.eqv

end Theme

end ScopePaint
