import ScopePaint.Regex.Search
import ScopePaint.Tokens.TokenLine

/-!
The tokens of a match.

A match is a token of its own, except where its groups have scopes: there the scopes of the groups
come on top, inner groups inside outer ones. Group 0 is the whole match. Groups that reach out of
the match, or out of a group they begin in, are passed over.
-/

set_option autoImplicit false

namespace ScopePaint

open Text (Span)

/-- A group with a scope: where it lies, its number, the scope's name, and the number that the scope
will have. -/
structure NamedGroup where
  range : Span
  index : Nat
  name : ScopeName
  number : Nat

/-- A group whose end has not been reached, with the scopes inside of it. -/
structure OpenGroup where
  stop : Nat
  stack : ScopeStack

namespace NamedGroup

/-- The order in which groups are opened: by their start, those that end later first. -/
def notAfter (a b : NamedGroup) : Bool :=
  a.range.start < b.range.start
    || (a.range.start == b.range.start
      && (b.range.stop < a.range.stop
        || (a.range.stop == b.range.stop && a.index ≤ b.index)))

/-- Whether a range is a part of another one and not empty. -/
def fits (whole range : Span) : Bool :=
  !range.isEmpty && whole.start ≤ range.start && range.stop ≤ whole.stop

/-- The groups of a match that get a scope, in the order in which they are opened. Scopes are
numbered from `number` on. -/
def ofCaptures (m : Match) (captures : Captures) (number : Nat) : List NamedGroup :=
  (captures.zipIdx.filterMap fun entry =>
    let ((index, name), i) := entry
    if index = 0 then none
    else (m.group index).bind fun range =>
      if fits m.range range then some ⟨range, index, name, number + i⟩ else none).mergeSort notAfter

end NamedGroup

/-- A token, unless it would be empty. -/
def tokenOf (start stop : Nat) (stack : ScopeStack) : List Token :=
  if start < stop then [⟨⟨start, stop⟩, stack⟩] else []

/-- Close the groups that end at or before a place. -/
def closeGroups (limit : Nat) (cursor : Nat) : List OpenGroup → List Token × Nat × List OpenGroup
  | [] => ([], cursor, [])
  | g :: rest =>
    if g.stop ≤ limit then
      let (tokens, cursor', rest) := closeGroups limit g.stop rest
      (tokenOf cursor g.stop g.stack ++ tokens, cursor', rest)
    else ([], cursor, g :: rest)

/-- Close all groups. -/
def closeAll (cursor : Nat) : List OpenGroup → List Token × Nat
  | [] => ([], cursor)
  | g :: rest =>
    let (tokens, cursor') := closeAll g.stop rest
    (tokenOf cursor g.stop g.stack ++ tokens, cursor')

/-- The tokens from a place up to the end of a match, with the groups that are still to come. -/
def groupTokens (theme : Theme) (base : ScopeStack) (stop : Nat) (cursor : Nat)
    (opened : List OpenGroup) : List NamedGroup → List Token
  | [] =>
    let (tokens, cursor) := closeAll cursor opened
    tokens ++ tokenOf cursor stop base
  | g :: rest =>
    let (closed, cursor, opened) := closeGroups g.range.start cursor opened
    let outer := match opened with
      | [] => base
      | o :: _ => o.stack
    closed ++
      if opened.head?.any fun o => o.stop < g.range.stop then
        groupTokens theme base stop cursor opened rest
      else
        tokenOf cursor g.range.start outer
          ++ groupTokens theme base stop g.range.start
            (⟨g.range.stop, Scope.inside theme g.number (some g.name) outer :: outer⟩ :: opened)
            rest

/-- A stack with the scopes for the whole match. -/
def wholeStack (theme : Theme) (number : Nat) (stack : ScopeStack) : Captures → ScopeStack
  | [] => stack
  | (index, name) :: rest =>
    if index = 0 then
      wholeStack theme (number + 1) (Scope.inside theme number (some name) stack :: stack) rest
    else wholeStack theme (number + 1) stack rest

/-- The tokens of a match inside of some scopes. New scopes are numbered from `number` on; there are
at most as many as captures. -/
def captureTokens (theme : Theme) (lineLength : Nat) (m : Match) (stack : ScopeStack)
    (captures : Captures) (number : Nat) : List Token :=
  if m.range.isEmpty ∨ lineLength < m.range.stop then []
  else
    groupTokens theme (wholeStack theme number stack captures) m.range.stop m.range.start []
      (NamedGroup.ofCaptures m captures number)

end ScopePaint
