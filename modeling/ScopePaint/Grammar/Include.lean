import ScopePaint.Text.Pieces

/-!
References between patterns.

An `include` names the grammar it stands in, a pattern of the grammar's repository, another grammar,
or a pattern in the repository of another grammar.
-/

set_option autoImplicit false

namespace ScopePaint

/-- What an `include` refers to. -/
inductive Include where
  | self
  | repository (name : String)
  | grammar (scope : String) (name : Option String)
  deriving DecidableEq, Repr

/-- Read a reference: `$self` or `$base`, `#name`, `scope` or `scope#name`. -/
def Include.ofText (s : String) : Include :=
  if s = "$self" ∨ s = "$base" then self
  else
    match Text.cutAt? '#' s.toList with
    | some ([], name) => repository (String.ofList name)
    | some (scope, name) => grammar (String.ofList scope) (some (String.ofList name))
    | none => grammar s none

end ScopePaint
