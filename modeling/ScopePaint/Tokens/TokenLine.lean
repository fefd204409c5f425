import ScopePaint.Tokens.Scope

/-!
The tokens of a line, and how a theme styles them.

Tokens lie in a row and begin at the start of the line, so the length of a line is the end of its
last token. Styling walks over the scopes of each token from the outermost one inwards and writes
all of their attributes, so that inner scopes write over outer ones. Attributes for lines are
collected in one paragraph style, which is written over the whole line at the end.
-/

set_option autoImplicit false

namespace ScopePaint

open Text (Span)

/-- A stretch of a line inside of some scopes. -/
structure Token where
  range : Span
  scopes : ScopeStack

/-- Whether two tokens have the very same scopes. -/
def Token.hasSameScopes (a b : Token) : Bool :=
  a.scopes.map (·.number) == b.scopes.map (·.number)

/-- The tokens of a line, from the last one backwards. -/
structure TokenLine where
  latest : List Token := []

namespace TokenLine

/-- The line without tokens. -/
def empty : TokenLine := {}

/-- The tokens of a line in their order. -/
def tokens (l : TokenLine) : List Token := l.latest.reverse

/-- Where the last token of a line ends. -/
def length (l : TokenLine) : Nat :=
  match l.latest with
  | [] => 0
  | t :: _ => t.range.stop

/-- A line without its last token if that is empty. -/
def dropEmptyEnd (l : TokenLine) : TokenLine :=
  match l.latest with
  | [] => l
  | t :: rest => if t.range.isEmpty then ⟨rest⟩ else l

/-- Append a token, which has to begin where the line ends. An empty token at the end of the line is
dropped before. -/
def add? (l : TokenLine) (t : Token) : Option TokenLine :=
  let l := l.dropEmptyEnd
  if t.range.start = l.length then some ⟨t :: l.latest⟩ else none

/-- Append tokens. -/
def addAll? (l : TokenLine) (tokens : List Token) : Option TokenLine :=
  tokens.foldlM add? l.dropEmptyEnd

/-- Append a token unless it is empty; if the last token has the very same scopes it grows
instead. -/
def merge? (l : TokenLine) (t : Token) : Option TokenLine :=
  if t.range.isEmpty then some l
  else
    let l := l.dropEmptyEnd
    match l.latest with
    | last :: rest =>
      if last.range.stop = t.range.start ∧ last.hasSameScopes t then
        some ⟨{ last with range := ⟨last.range.start, t.range.stop⟩ } :: rest⟩
      else l.add? t
    | [] => l.add? t

/-- Append tokens as `merge?` does. -/
def mergeAll? (l : TokenLine) (tokens : List Token) : Option TokenLine := tokens.foldlM merge? l

/-- The attributes that a token gets, in the order of writing: from the outermost scope inwards,
what always applies before what depends on the selection. -/
def writes (selected base : Bool) (t : Token) : List ThemeAttribute :=
  t.scopes.reverse.flatMap fun scope =>
    (if base then scope.style.attributes.items else [])
      ++ (if selected then scope.style.inSelection.items else scope.style.outOfSelection.items)

/-- The attributes of a line that style nothing. -/
def skipped (l : TokenLine) (selected base : Bool) : List Warning :=
  (l.tokens.flatMap (writes selected base)).filterMap fun a =>
    if a.capability = .unsupported then some (.skippedAttribute a.kind) else none

/-- Write one attribute over a range, or into the paragraph style. -/
def write (range : Span) (acc : StyledText × ParagraphStyle) (a : ThemeAttribute) :
    StyledText × ParagraphStyle :=
  match a.capability with
  | .token => (a.applyToRange acc.1 range, acc.2)
  | .line => (acc.1, a.applyToParagraph acc.2)
  | .unsupported => acc

/-- Write the attributes of a token in a line that begins at `start`. -/
def writeToken (start : Nat) (selected base : Bool) (acc : StyledText × ParagraphStyle)
    (t : Token) : StyledText × ParagraphStyle :=
  (writes selected base t).foldl (write ⟨start + t.range.start, start + t.range.stop⟩) acc

/-- Style a line that begins at `start`. In base mode the styling of the line is made anew;
otherwise only what depends on the selection is written over what is there. -/
def apply (l : TokenLine) (text : StyledText) (start : Nat) (selected base : Bool) : StyledText :=
  let whole : Span := ⟨start, start + l.length⟩
  let text := if base then text.clear whole else text
  let paragraph := if base then {} else (text.paragraphAt? start).getD {}
  let (text, paragraph) := l.tokens.foldl (writeToken start selected base) (text, paragraph)
  text.set whole (.paragraphStyle paragraph)

end TokenLine

end ScopePaint
