import ScopePaint.Tokens.Captures

/-!
Cutting lines into tokens.

From each place on, the tokenizer looks for the first match of the end of the innermost region and
of the rules of the innermost scope. Of matches that start at the same place the end of the region
goes first, then rules in their order. The text before a match is a token inside of the current
scopes.

At the end of the line only ends of regions are looked for, so that regions that end there are
closed on the line they began on. A match of nothing that would lead nowhere consumes one character
instead: that of a pattern without a region, and that of a begin where a region was begun by nothing
just now or where the same region is still open that began there.
-/

set_option autoImplicit false

namespace ScopePaint

open Text (Span)

/-- What a match is a match of. -/
inductive Step where
  | stop
  | single (rule : MatchRule)
  | region (region : Region) (patterns : List Pattern)

/-- A match, and of what. -/
structure Found where
  hit : Match
  step : Step

/-- A scope on the stack; if it was opened by a region's begin on this line, where that begin
ended. -/
structure Level where
  scope : Scope
  openedAt : Option Nat

/-- How far the tokenizing of a line has come: the place, the scopes around it, where and how deep a
region last began with a match of nothing, the tokens so far, and the next free number for a
scope. -/
structure Progress where
  pos : Nat
  levels : List Level
  emptyBegin : Option (Nat × Nat)
  line : TokenLine
  number : Nat

namespace Found

/-- The region that the innermost scope belongs to: a content scope shares the end of the region
around it. -/
def innermostRegion? : ScopeStack → Option Scope
  | [] => none
  | [top] => some top
  | top :: below :: _ => some (if top.isContent then below else top)

/-- The match of a region's end from a place on. -/
def ofStop? (line : List Char) (pos : Nat) (stack : ScopeStack) :
    Except Regex.SearchError (Option Found) :=
  match (innermostRegion? stack).bind (·.stop) with
  | some stop => (stop.search line pos).map (·.map fun hit => ⟨hit, .stop⟩)
  | none => .ok none

/-- The match of a rule from a place on. -/
def ofRule? (line : List Char) (pos : Nat) (rule : Rule) :
    Except Regex.SearchError (Option Found) :=
  (rule.regex.search line pos).map (·.map fun hit =>
    ⟨hit, match rule with
      | .single r => .single r
      | .region r patterns => .region r patterns⟩)

/-- The rules that count at a place: those of the innermost scope, but none at the end of the line. -/
def rulesAt (line : List Char) (pos : Nat) (stack : ScopeStack) : List Rule :=
  if pos < Text.byteLength line then
    match stack with
    | [] => []
    | top :: _ => top.rules
  else []

/-- All matches from a place on: that of the region's end, then those of the rules in their order.
The first search that is given up keeps the others from being tried. -/
def candidates (line : List Char) (pos : Nat) (stack : ScopeStack) :
    Except Regex.SearchError (List Found) := do
  let stop ← ofStop? line pos stack
  let others ← (rulesAt line pos stack).mapM (ofRule? line pos)
  return stop.toList ++ others.filterMap id

/-- The better of two matches: the earlier one, or the first of two that start together. -/
def better (best : Option Found) (f : Found) : Option Found :=
  match best with
  | none => some f
  | some b => if b.hit.range.start ≤ f.hit.range.start then some b else some f

/-- The first match. -/
def earliest (candidates : List Found) : Option Found := candidates.foldl better none

/-- The next match from a place on. -/
def next? (line : List Char) (pos : Nat) (stack : ScopeStack) :
    Except Regex.SearchError (Option Found) :=
  (candidates line pos stack).map earliest

end Found

namespace Progress

/-- The scopes around the place. -/
def stack (p : Progress) : ScopeStack := p.levels.map (·.scope)

/-- Append tokens. -/
def emit (p : Progress) (tokens : List Token) : Except Failure Progress :=
  match p.line.mergeAll? tokens with
  | some line => .ok { p with line }
  | none => .error .scattered

/-- Move on to a place; the text on the way is a token. -/
def moveTo (p : Progress) (pos : Nat) : Except Failure Progress :=
  if p.pos < pos then return { ← p.emit [⟨⟨p.pos, pos⟩, p.stack⟩] with pos }
  else .ok p

/-- How many bytes the character at a place takes; there is none in the middle of a character. -/
def widthAt? (line : List Char) (pos : Nat) : Option Nat :=
  match Text.splitAtByte? pos line with
  | some (_, c :: _) => some c.utf8Size
  | _ => none

/-- Consume one character; at the end of the line there is none, and the work is done. -/
def consume (line : List Char) (p : Progress) : Except Failure (Option Progress) :=
  if Text.byteLength line ≤ p.pos then .ok none
  else
    match widthAt? line p.pos with
    | none => .error .insideCharacter
    | some width => return some (← p.moveTo (p.pos + width))

/-- The levels from the innermost region outwards: a content scope on top does not count. -/
def regionLevels (p : Progress) : List Level :=
  match p.levels with
  | top :: below => if top.scope.isContent then below else top :: below
  | [] => []

/-- The captures of the innermost region's end. -/
def stopCaptures (p : Progress) : Captures :=
  match p.regionLevels with
  | top :: _ => (top.scope.openedBy.map (·.stopCaptures)).getD []
  | [] => []

/-- End the innermost region. -/
def endRegion (theme : Theme) (line : List Char) (p : Progress) (hit : Match) :
    Except Failure (Option Progress) := do
  let tokens := captureTokens theme (Text.byteLength line) hit (p.regionLevels.map (·.scope))
    p.stopCaptures p.number
  let q ← p.emit tokens
  return some { q with pos := hit.range.stop, levels := p.regionLevels.drop 1,
                       number := p.number + p.stopCaptures.length }

/-- The scopes around the text that a rule matches. -/
def singleStack (theme : Theme) (p : Progress) (rule : MatchRule) : ScopeStack :=
  match rule.scope with
  | some name => Scope.inside theme p.number (some name) p.stack :: p.stack
  | none => p.stack

/-- Apply a rule that matches a stretch of text. -/
def applySingle (theme : Theme) (line : List Char) (p : Progress) (hit : Match)
    (rule : MatchRule) : Except Failure (Option Progress) := do
  if hit.range.isEmpty then p.consume line
  else
    let tokens := captureTokens theme (Text.byteLength line) hit (p.singleStack theme rule)
      rule.captures (p.number + 1)
    let q ← p.emit tokens
    return some { q with pos := hit.range.stop, number := p.number + 1 + rule.captures.length }

/-- Whether a region has begun at the place before, and nothing was consumed since. -/
def reopens (p : Progress) (r : Region) : Bool :=
  p.levels.any fun level =>
    level.openedAt == some p.pos && level.scope.openedBy.any fun opened => opened.place == r.place

/-- Whether beginning a region with a match of nothing would lead nowhere. -/
def repeats (p : Progress) (r : Region) (hit : Match) : Bool :=
  hit.range.isEmpty && (p.emptyBegin == some (p.pos, p.levels.length) || p.reopens r)

/-- The scope of a region that begins at the place. -/
def regionScope (theme : Theme) (p : Progress) (r : Region) (stop : Regex) (rules : List Rule) :
    Scope :=
  { Scope.inside theme p.number r.scope p.stack with
    rules := rules, stop := some stop, openedBy := some r }

/-- The levels inside of a region that begins with a match: its own one and, if it has one, that of
its content. -/
def openedLevels (theme : Theme) (p : Progress) (hit : Match) (r : Region) (stop : Regex)
    (rules : List Rule) : List Level :=
  let region := p.regionScope theme r stop rules
  let levels := ⟨region, some hit.range.stop⟩ :: p.levels
  match r.content with
  | some name =>
    ⟨{ Scope.inside theme (p.number + 1 + r.startCaptures.length) (some name) (region :: p.stack)
        with rules := rules, isContent := true }, some hit.range.stop⟩ :: levels
  | none => levels

/-- Begin a region with the given end and rules. -/
def beginRegion (theme : Theme) (line : List Char) (p : Progress) (hit : Match) (r : Region)
    (stop : Regex) (rules : List Rule) : Except Failure (Option Progress) := do
  let tokens := captureTokens theme (Text.byteLength line) hit
    (p.regionScope theme r stop rules :: p.stack) r.startCaptures (p.number + 1)
  let q ← p.emit tokens
  return some
    { q with
      pos := hit.range.stop
      levels := p.openedLevels theme hit r stop rules
      emptyBegin := if hit.range.isEmpty then some (p.pos, p.levels.length) else p.emptyBegin
      number := p.number + 1 + r.startCaptures.length + 1 }

/-- Make one step; there is none if the work is done. The rules of regions come from the library,
and errors name the grammar `scope`. -/
def step (lib : Library) (theme : Theme) (scope : ScopeName) (line : List Char) (p : Progress) :
    Except Failure (Option Progress) × Library :=
  match Found.next? line p.pos p.stack with
  | .error e => (.error (.search e), lib)
  | .ok none => (.ok none, lib)
  | .ok (some found) =>
    match p.moveTo found.hit.range.start with
    | .error e => (.error e, lib)
    | .ok p =>
      match found.step with
      | .stop => (p.endRegion theme line found.hit, lib)
      | .single rule => (p.applySingle theme line found.hit rule, lib)
      | .region r patterns =>
        if p.repeats r found.hit then (p.consume line, lib)
        else
          match r.stop.resolve line found.hit with
          | .error cause =>
            (.error (.grammar (.invalidRegex scope.text r.stop.source cause)), lib)
          | .ok stop =>
            match lib.nestedRules r patterns with
            | (.error e, lib) => (.error e, lib)
            | (.ok rules, lib) => (p.beginRegion theme line found.hit r stop rules, lib)

/-- Make steps until the work is done. -/
def run (theme : Theme) (scope : ScopeName) (line : List Char) :
    Nat → Library → Progress → Except Failure Progress × Library
  | 0, lib, _ => (.error .endless, lib)
  | fuel + 1, lib, p =>
    match p.step lib theme scope line with
    | (.error e, lib) => (.error e, lib)
    | (.ok none, lib) => (.ok p, lib)
    | (.ok (some p), lib) => run theme scope line fuel lib p

/-- Where the work on a line starts. -/
def start (state : LineState) : Progress :=
  ⟨0, state.stack.map fun scope => ⟨scope, none⟩, none, .empty,
    ScopeStack.freshNumber state.stack⟩

/-- The rest of a line, behind the last match, is a token as well. -/
def finish (line : List Char) (p : Progress) : Except Failure (TokenLine × LineState) := do
  let p ← p.moveTo (Text.byteLength line)
  return (p.line, ⟨p.stack⟩)

end Progress

namespace Library

/-- How many steps a line may take. -/
def stepLimit (lib : Library) (line : List Char) (state : LineState) : Nat :=
  let places := Text.byteLength line + 2
  8 * places * (state.stack.length + 2 * places * (lib.regionCount + 2))

/-- Make the steps over a line from the state in which it starts. -/
def runLine (lib : Library) (id : Nat) (theme : Theme) (line : List Char) (state : LineState) :
    Except Failure Progress × Library :=
  Progress.run theme (((lib.grammar? id).map (·.scopeName)).getD ⟨""⟩) line
    (lib.stepLimit line state) lib (.start state)

/-- Cut a line into tokens. Gives the tokens and where the next line starts. A line that is too long
is one token. -/
def tokenizeLine (lib : Library) (id : Nat) (theme : Theme) (line : List Char)
    (state : LineState) : Except Failure (TokenLine × LineState) × Library :=
  match lib.rules id with
  | (.error e, lib) => (.error e, lib)
  | (.ok _, lib) =>
    let length := Text.byteLength line
    if lib.options.maxLineLength < length then
      match TokenLine.empty.merge? ⟨⟨0, length⟩, state.stack⟩ with
      | some tokens => (.ok (tokens, state), lib)
      | none => (.error .scattered, lib)
    else
      match lib.runLine id theme line state with
      | (.error e, lib) => (.error e, lib)
      | (.ok p, lib) => (p.finish line, lib)

/-- Where a document starts. -/
def firstLineState (lib : Library) (id : Nat) (theme : Theme) :
    Except Failure LineState × Library :=
  match lib.rules id with
  | (.error e, lib) => (.error e, lib)
  | (.ok rules, lib) =>
    match lib.grammar? id with
    | some g => (.ok (.first theme g rules), lib)
    | none => (.error (.unregistered ""), lib)

/-- The styling that a theme gives to the text of a document outside of any pattern and of the
selection. -/
def baseValues (lib : Library) (id : Nat) (theme : Theme) :
    Except Failure (List StyleValue) × Library :=
  match lib.firstLineState id theme with
  | (.error e, lib) => (.error e, lib)
  | (.ok state, lib) =>
    match TokenLine.empty.add? ⟨⟨0, 1⟩, state.stack⟩ with
    | none => (.error .scattered, lib)
    | some line =>
      (.ok ((line.apply (.ofString " ") 0 false true).valuesAt 0),
        lib.warn (line.skipped false true))

end Library

end ScopePaint
