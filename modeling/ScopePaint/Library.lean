import ScopePaint.Grammar.Grammar
import ScopePaint.Warning

/-!
Libraries of grammars.

A library holds grammars and knows which of them stands for each scope name. Adding a grammar gives
it a number; enrolling it makes it the one that its scope name stands for.

Following the includes of patterns is a walk over the registered grammars, whose trace is a list of
findings: rules, includes that would go round in a circle, and includes of nothing. A circle is
recognised by the keys of the includes on the way, and cut. What becomes of an include of nothing is
a matter of policy. The rules of a grammar and those of a region are found once and then kept, even
if the library changes.
-/

set_option autoImplicit false

namespace ScopePaint

/-- What becomes of an include of nothing: a warning, or an error. -/
inductive MissingPolicy where
  | warn | error
  deriving DecidableEq, Repr

/-- How grammars are used: what becomes of an include of nothing, and how many bytes a line may have
to be looked at. -/
structure LibraryOptions where
  missing : MissingPolicy := .warn
  maxLineLength : Nat := 20000
  deriving DecidableEq, Repr

/-- A grammar in a library: its rules, once they have been found, and how often they were looked
for. -/
structure Member where
  grammar : Grammar
  rules : Option (List Rule) := none
  resolutions : Nat := 0

/-- Grammars by their numbers, the numbers that scope names stand for, the rules of regions that
have been found, and the warnings so far. -/
structure Library where
  options : LibraryOptions := {}
  members : List Member := []
  names : List (String × Nat) := []
  nested : List (RegionPlace × List Rule) := []
  log : List Warning := []

/-- Why a library could not do its work: a grammar is wrong, or was not registered; a search for an
expression was given up; tokens were not in a row, a character was to be read from its middle, or
there was no end. -/
inductive Failure where
  | grammar (error : GrammarError)
  | unregistered (scope : String)
  | search (error : Regex.SearchError)
  | scattered
  | insideCharacter
  | endless
  deriving DecidableEq, Repr

/-- What a walk over patterns meets. -/
inductive Finding where
  | rule (rule : Rule)
  | cycle (warning : Warning)
  | missing (error : GrammarError)

namespace Pattern

mutual

/-- Walk over a pattern; `follow` walks over what an include refers to. -/
def walk (follow : Include → List Finding) : Pattern → List Finding
  | single rule => [.rule (.single rule)]
  | region r patterns => [.rule (.region r patterns)]
  | reference target => follow target
  | group patterns => walkAll follow patterns

/-- Walk over patterns in their order. -/
def walkAll (follow : Include → List Finding) : List Pattern → List Finding
  | [] => []
  | p :: rest => walk follow p ++ walkAll follow rest

end

end Pattern

namespace Finding

/-- The rule that was found. -/
def rule? : Finding → Option Rule
  | rule r => some r
  | _ => none

/-- The error of an include of nothing. -/
def missing? : Finding → Option GrammarError
  | missing e => some e
  | _ => none

/-- What to warn of, where an include of nothing is no error. -/
def warning? : Finding → Option Warning
  | rule _ => none
  | cycle w => some w
  | missing e => some (.unresolved e)

/-- The rules that a walk found, or the first include of nothing if that is an error. -/
def rules (policy : MissingPolicy) (findings : List Finding) : Except GrammarError (List Rule) :=
  match policy, findings.findSome? missing? with
  | .error, some e => .error e
  | _, _ => .ok (findings.filterMap rule?)

/-- What to warn of after a walk; an error ends the walk. -/
def warnings (policy : MissingPolicy) (findings : List Finding) : List Warning :=
  match policy with
  | .warn => findings.filterMap warning?
  | .error => (findings.takeWhile fun f => f.missing?.isNone).filterMap warning?

end Finding

namespace Library

/-- The library without grammars. -/
def empty (options : LibraryOptions) : Library := { options }

/-- Add a grammar without registering it. -/
def add (lib : Library) (g : Grammar) : Library × Nat :=
  ({ lib with members := lib.members ++ [{ grammar := g.place lib.members.length }] },
    lib.members.length)

/-- The grammar with a number. -/
def grammar? (lib : Library) (id : Nat) : Option Grammar := (lib.members[id]?).map (·.grammar)

/-- Let the scope name of a grammar stand for it. -/
def enroll (lib : Library) (id : Nat) : Library :=
  match lib.grammar? id with
  | some g =>
    { lib with
      names := (g.scopeName.text, id)
        :: lib.names.filter fun entry => entry.1 ≠ g.scopeName.text }
  | none => lib

/-- Add a grammar and register it; it takes the place of one with the same scope name. -/
def register (lib : Library) (g : Grammar) : Library × Nat :=
  let (lib, id) := lib.add g
  (lib.enroll id, id)

/-- The number of the grammar that a scope name stands for. -/
def id? (lib : Library) (scope : String) : Option Nat := lib.names.lookup scope

/-- The grammar that a scope name stands for. -/
def find? (lib : Library) (scope : String) : Option Grammar :=
  (lib.id? scope).bind lib.grammar?

/-- Whether a grammar is the one that its scope name stands for. -/
def isRegistered (lib : Library) (id : Nat) : Bool :=
  match lib.grammar? id with
  | some g => lib.id? g.scopeName.text == some id
  | none => false

/-- The scope names that stand for a grammar, in order. -/
def scopes (lib : Library) : List String :=
  (lib.names.map (·.1)).mergeSort fun a b => decide (a ≤ b)

/-- The first scope name in order whose grammar has a property, where to find out about a grammar may
fail. -/
def firstWith {m : Type → Type} [Monad m] (lib : Library) (p : Grammar → m Bool) :
    m (Option String) :=
  lib.scopes.findM? fun scope =>
    match lib.find? scope with
    | some g => p g
    | none => pure false

/-- The scope name of the grammar for a file; of several the first one in order. -/
def forFile? (lib : Library) (path : String) : Option String :=
  Id.run (lib.firstWith fun g => pure (g.matchesFile path))

/-- The scope name of the grammar for files with this first line; of several the first one in
order. -/
def forFirstLine? (lib : Library) (line : String) : Except Regex.SearchError (Option String) :=
  lib.firstWith fun g => g.matchesFirstLine line

/-- The key of an include of a whole grammar. -/
def selfKey (scope : String) : String := scope ++ "$self"

/-- The key of an include of a named pattern. -/
def entryKey (scope name : String) : String := scope ++ "#" ++ name

/-- Walk over a named pattern of a grammar. -/
def followEntry (expand : List String → Grammar → List Pattern → List Finding)
    (visiting : List String) (g : Grammar) (name : String) : List Finding :=
  match g.find? name with
  | none => [.missing (.missingPattern g.scopeName.text name)]
  | some p =>
    let key := entryKey g.scopeName.text name
    if visiting.contains key then [.cycle (.repositoryCycle key)]
    else expand (key :: visiting) g [p]

/-- Walk over all patterns of the grammar `target`, included from the grammar `g`. -/
def followGrammar (expand : List String → Grammar → List Pattern → List Finding)
    (visiting : List String) (g target : Grammar) (key : String) : List Finding :=
  if visiting.contains key then [.cycle (.includeCycle key g.scopeName.text)]
  else expand (key :: visiting) target target.patterns

/-- Walk over what an include in the grammar `g` refers to. -/
def follow (lib : Library) (expand : List String → Grammar → List Pattern → List Finding)
    (visiting : List String) (g : Grammar) : Include → List Finding
  | .self => followGrammar expand visiting g g (selfKey g.scopeName.text)
  | .repository name => followEntry expand visiting g name
  | .grammar scope name =>
    match lib.find? scope, name with
    | none, _ => [.missing (.missingGrammar g.scopeName.text scope)]
    | some other, some name => followEntry expand visiting other name
    | some other, none => followGrammar expand visiting g other (selfKey scope)

/-- Walk over patterns of the grammar `g`. Each include on the way takes one step of fuel. -/
def expand (lib : Library) : Nat → List String → Grammar → List Pattern → List Finding
  | 0, _, _, _ => []
  | fuel + 1, visiting, g, patterns =>
    Pattern.walkAll (lib.follow (lib.expand fuel) visiting g) patterns

/-- How many keys an include can have in walks that begin in the grammar `g`. -/
def keyCount (lib : Library) (g : Grammar) : Nat :=
  (g.repository.length + 1)
    + (lib.members.map fun m => m.grammar.repository.length + 1).foldr (· + ·) 0

/-- Walk over patterns of the grammar `g`. The keys on the way differ, which bounds how deep the
walk goes. -/
def findings (lib : Library) (g : Grammar) (patterns : List Pattern) : List Finding :=
  lib.expand (lib.keyCount g + 1) [] g patterns

/-- Write warnings down. -/
def warn (lib : Library) (warnings : List Warning) : Library :=
  { lib with log := lib.log ++ warnings }

/-- The rules that patterns of the grammar `g` stand for. -/
def resolve (lib : Library) (g : Grammar) (patterns : List Pattern) :
    Except Failure (List Rule) × Library :=
  let findings := lib.findings g patterns
  ((Finding.rules lib.options.missing findings).mapError .grammar,
    lib.warn (Finding.warnings lib.options.missing findings))

/-- Change a member. -/
def modifyMember (lib : Library) (id : Nat) (f : Member → Member) : Library :=
  { lib with members := lib.members.modify id f }

/-- The rules of a registered grammar. They are kept once they have been found. -/
def rules (lib : Library) (id : Nat) : Except Failure (List Rule) × Library :=
  match lib.members[id]? with
  | none => (.error (.unregistered ""), lib)
  | some m =>
    if lib.isRegistered id then
      match m.rules with
      | some rules => (.ok rules, lib)
      | none =>
        let (result, lib) := lib.resolve m.grammar m.grammar.patterns
        let lib := lib.modifyMember id fun m => { m with resolutions := m.resolutions + 1 }
        match result with
        | .ok rules => (.ok rules, lib.modifyMember id fun m => { m with rules := some rules })
        | .error e => (.error e, lib)
    else (.error (.unregistered m.grammar.scopeName.text), lib)

/-- How often the rules of a grammar were looked for. -/
def resolutions (lib : Library) (id : Nat) : Nat :=
  match lib.members[id]? with
  | some m => m.resolutions
  | none => 0

/-- The rules inside of a region. They are kept once they have been found. -/
def nestedRules (lib : Library) (r : Region) (patterns : List Pattern) :
    Except Failure (List Rule) × Library :=
  match lib.nested.lookup r.place with
  | some rules => (.ok rules, lib)
  | none =>
    match lib.find? r.grammar.text with
    | none => (.error (.unregistered r.grammar.text), lib)
    | some g =>
      match lib.resolve g patterns with
      | (.ok rules, lib) => (.ok rules, { lib with nested := (r.place, rules) :: lib.nested })
      | (.error e, lib) => (.error e, lib)

/-- How many regions the grammars of a library have. -/
def regionCount (lib : Library) : Nat :=
  (lib.members.map fun m => m.grammar.regionCount).foldr (· + ·) 0

end Library

end ScopePaint
