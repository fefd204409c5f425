import ScopePaint.Files.Path
import ScopePaint.Grammar.EndPattern
import ScopePaint.Grammar.Include
import ScopePaint.ScopeName

/-!
Grammars.

A grammar is a list of patterns. A pattern matches a stretch of text, begins a region that has
patterns of its own, refers to other patterns, or is a group of patterns. Following the references
turns patterns into rules, each of which has a regular expression of its own.
-/

set_option autoImplicit false

namespace ScopePaint

/-- The scopes of groups, by their numbers. -/
abbrev Captures := List (Nat × ScopeName)

/-- A pattern that matches a stretch of text. -/
structure MatchRule where
  scope : Option ScopeName
  regex : Regex
  captures : Captures

/-- The place of a region: the number of its grammar in a library, and its number in the grammar.
Two regions are the same only if they have the same place. -/
structure RegionPlace where
  grammar : Nat
  site : Nat
  deriving DecidableEq, Repr

/-- A pattern that begins a region: its scope, the scope of what lies between its begin and its end,
and the scope of the grammar it stands in, whose repository its own patterns refer to. -/
structure Region where
  place : RegionPlace
  grammar : ScopeName
  scope : Option ScopeName
  content : Option ScopeName
  start : Regex
  stop : EndPattern
  startCaptures : Captures
  stopCaptures : Captures

/-- A pattern of a grammar. -/
inductive Pattern where
  | single (rule : MatchRule)
  | region (region : Region) (patterns : List Pattern)
  | reference (target : Include)
  | group (patterns : List Pattern)

/-- A pattern that can be looked for. -/
inductive Rule where
  | single (rule : MatchRule)
  | region (region : Region) (patterns : List Pattern)

/-- The regular expression that finds where a rule applies. -/
def Rule.regex : Rule → Regex
  | single rule => rule.regex
  | region r _ => r.start

/-- The scope that a rule gives. -/
def Rule.scope : Rule → Option ScopeName
  | single rule => rule.scope
  | region r _ => r.scope

/-- A grammar: its scope, the files it is for, its patterns and its named patterns, and what tells
foldings and the first lines of files. -/
structure Grammar where
  scopeName : ScopeName
  name : Option String := none
  fileTypes : List String := []
  patterns : List Pattern := []
  repository : List (String × Pattern) := []
  foldingStart : Option Regex := none
  foldingStop : Option Regex := none
  firstLine : Option Regex := none

namespace Pattern

mutual

/-- Give the regions of a pattern their places; the counter tells the next free number. -/
def place (grammar : Nat) (site : Nat) : Pattern → Pattern × Nat
  | region r ps =>
    let (ps, next) := placeAll grammar (site + 1) ps
    (region { r with place := ⟨grammar, site⟩ } ps, next)
  | group ps =>
    let (ps, next) := placeAll grammar site ps
    (group ps, next)
  | p => (p, site)

/-- Give the regions of some patterns their places. -/
def placeAll (grammar : Nat) (site : Nat) : List Pattern → List Pattern × Nat
  | [] => ([], site)
  | p :: ps =>
    let (p, next) := place grammar site p
    let (ps, next) := placeAll grammar next ps
    (p :: ps, next)

end

/-- Give the regions of named patterns their places. -/
def placeNamed (grammar : Nat) (site : Nat) : List (String × Pattern) →
    List (String × Pattern) × Nat
  | [] => ([], site)
  | (name, p) :: rest =>
    let (p, next) := p.place grammar site
    let (rest, next) := placeNamed grammar next rest
    ((name, p) :: rest, next)

end Pattern

namespace Grammar

/-- Give the regions of a grammar their places. -/
def place (g : Grammar) (number : Nat) : Grammar :=
  let (patterns, next) := Pattern.placeAll number 0 g.patterns
  { g with patterns := patterns, repository := (Pattern.placeNamed number next g.repository).1 }

/-- How many regions a grammar has. -/
def regionCount (g : Grammar) : Nat :=
  (Pattern.placeNamed 0 (Pattern.placeAll 0 0 g.patterns).2 g.repository).2

/-- The named pattern of a grammar. -/
def find? (g : Grammar) (name : String) : Option Pattern := g.repository.lookup name

/-- Whether a grammar is for a file, by the extension or the whole of its name. -/
def matchesFile (g : Grammar) (path : String) : Bool :=
  g.fileTypes.any fun type =>
    Path.extension? path == some type || Path.fileName? path == some type

/-- Whether a regular expression is there and matches in a line. -/
def hasMatch (regex : Option Regex) (line : String) : Except Regex.SearchError Bool :=
  match regex with
  | some r => r.isMatch line.toList
  | none => .ok false

/-- Whether a file with this first line is one of the grammar. -/
def matchesFirstLine (g : Grammar) (line : String) : Except Regex.SearchError Bool :=
  hasMatch g.firstLine line

/-- Whether a folding starts on a line. -/
def isFoldingStart (g : Grammar) (line : String) : Except Regex.SearchError Bool :=
  hasMatch g.foldingStart line

/-- Whether a folding stops on a line. -/
def isFoldingStop (g : Grammar) (line : String) : Except Regex.SearchError Bool :=
  hasMatch g.foldingStop line

end Grammar

end ScopePaint
