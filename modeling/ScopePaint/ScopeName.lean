import ScopePaint.Text.Pieces

/-!
Scope names.

A scope name such as `comment.line.double-slash` is made of components between dots. A scope is
above another one if its components are the first components of the other: `comment` is above
`comment.line`, but `comment.l` is not.
-/

set_option autoImplicit false

namespace ScopePaint

/-- The name of a scope. -/
structure ScopeName where
  text : String
  deriving DecidableEq, Repr

namespace ScopeName

/-- The parts of a name between its dots; there is always at least one. -/
def components (s : ScopeName) : List String := Text.split '.' s.text

/-- How many components a name has. -/
def depth (s : ScopeName) : Nat := s.components.length

/-- The first component of a name. -/
def root (s : ScopeName) : String := s.components.headD ""

/-- Whether a scope is another one or above it. -/
def isAncestorOrEqual (s t : ScopeName) : Bool := s.components.isPrefixOf t.components

/-- The order of names by their text. -/
def order (s t : ScopeName) : Ordering := compareOfLessAndEq s.text t.text

end ScopeName

end ScopePaint
