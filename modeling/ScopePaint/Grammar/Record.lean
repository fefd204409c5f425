import ScopePaint.Data.Json
import ScopePaint.Data.PropertyList
import ScopePaint.Grammar.Grammar
import ScopePaint.Warning

/-!
Grammars as files hold them.

Records are what a file says; compiling them gives a grammar. Which kind of pattern a record stands
for depends on its fields: an `include` counts before a `match`, that before a `begin`, and that
before a list of patterns. Regular expressions are compiled at once, so that a broken grammar is
found when it is loaded; references are kept as they are.
-/

set_option autoImplicit false

namespace ScopePaint

open Data (Value Fields)

/-- The scopes of groups as a file holds them: the texts that number the groups, in their order,
with the scopes that have a name. -/
abbrev CaptureRecords := List (String × Option String)

/-- A pattern as a file holds it. -/
structure PatternRecord where
  name : Option String := none
  contentName : Option String := none
  matchSource : Option String := none
  beginSource : Option String := none
  endSource : Option String := none
  includeText : Option String := none
  captures : CaptureRecords := []
  beginCaptures : CaptureRecords := []
  endCaptures : CaptureRecords := []
  patterns : Option (List PatternRecord) := none

/-- A grammar as a file holds it. -/
structure GrammarRecord where
  scopeName : String
  name : Option String := none
  fileTypes : List String := []
  patterns : List PatternRecord := []
  repository : List (String × PatternRecord) := []
  foldingStartMarker : Option String := none
  foldingStopMarker : Option String := none
  firstLineMatch : Option String := none

/-- The entries of a table in the order of their names. -/
def sortTable {α : Type} (table : List (String × α)) : List (String × α) :=
  table.mergeSort fun a b => decide (a.1 ≤ b.1)

/-- Read the scope of a group. -/
def readCapture (positional : Bool) (v : Value) : Option (Option String) := do
  (← Fields.ofValue positional ["name"] v).optional 0 Value.asText

/-- Read the scopes of groups. -/
def readCaptures (positional : Bool) (v : Value) : Option CaptureRecords :=
  (v.asTable (readCapture positional)).map sortTable

namespace PatternRecord

/-- Read a pattern. In some formats records may be lists of their fields. -/
def ofValue (positional : Bool) : Nat → Value → Option PatternRecord
  | 0, _ => none
  | fuel + 1, v => do
    let fields ← Fields.ofValue positional
      ["name", "contentName", "match", "begin", "end", "include", "captures", "beginCaptures",
        "endCaptures", "patterns"] v
    let name ← fields.optional 0 Value.asText
    let contentName ← fields.optional 1 Value.asText
    let matchSource ← fields.optional 2 Value.asText
    let beginSource ← fields.optional 3 Value.asText
    let endSource ← fields.optional 4 Value.asText
    let includeText ← fields.optional 5 Value.asText
    let captures ← fields.defaulted 6 (readCaptures positional) []
    let beginCaptures ← fields.defaulted 7 (readCaptures positional) []
    let endCaptures ← fields.defaulted 8 (readCaptures positional) []
    let patterns ← fields.optional 9 (Value.asList (ofValue positional fuel))
    return { name, contentName, matchSource, beginSource, endSource, includeText, captures,
             beginCaptures, endCaptures, patterns }

end PatternRecord

namespace GrammarRecord

/-- Read a grammar. -/
def ofValue (positional : Bool) (v : Value) : Option GrammarRecord := do
  let pattern := PatternRecord.ofValue positional v.height
  let fields ← Fields.ofValue positional
    ["scopeName", "name", "fileTypes", "patterns", "repository", "foldingStartMarker",
      "foldingStopMarker", "firstLineMatch"] v
  let scopeName ← fields.required 0 Value.asText
  let name ← fields.defaulted 1 (Value.asOption Value.asText) none
  let fileTypes ← fields.defaulted 2 (Value.asList Value.asText) []
  let patterns ← fields.defaulted 3 (Value.asList pattern) []
  let repository ← fields.defaulted 4 (Value.asTable pattern) []
  let foldingStartMarker ← fields.defaulted 5 (Value.asOption Value.asText) none
  let foldingStopMarker ← fields.defaulted 6 (Value.asOption Value.asText) none
  let firstLineMatch ← fields.defaulted 7 (Value.asOption Value.asText) none
  return { scopeName, name, fileTypes, patterns, repository := sortTable repository,
           foldingStartMarker, foldingStopMarker, firstLineMatch }

end GrammarRecord

/-- The number of a group: digits, with an optional plus sign, below the bound of 64 bits. -/
def groupNumber? (key : String) : Option Nat :=
  let digits := match key.toList with
    | '+' :: rest => rest
    | cs => cs
  if digits.isEmpty ∨ ¬ digits.all Char.isDigit then none
  else
    let n := Number.digitsValue digits
    if n < Nat.pow 2 64 then some n else none

/-- The scopes of groups by their numbers; those without a name and those whose number is none are
left out. -/
def compileCaptures (records : CaptureRecords) : Captures :=
  (records.filterMap fun r => do
    let index ← groupNumber? r.1
    let name ← r.2
    return (index, ScopeName.mk name)).mergeSort fun a b => decide (a.1 ≤ b.1)

/-- The groups that are left out because their number is none. -/
def skippedCaptures (grammar : String) (records : CaptureRecords) : List Warning :=
  records.filterMap fun r =>
    if (groupNumber? r.1).isNone then some (.captureKey grammar r.1) else none

/-- Compile a regular expression of a grammar. -/
def compileRegex (grammar source : String) : Except GrammarError Regex :=
  match Regex.compile source with
  | .ok regex => .ok regex
  | .error cause => .error (.invalidRegex grammar source cause)

/-- Compile the end of a region of a grammar. -/
def compileEnd (grammar source : String) : Except GrammarError EndPattern :=
  match EndPattern.compile source with
  | .ok stop => .ok stop
  | .error cause => .error (.invalidRegex grammar source cause)

/-- The captures of one end of a region: its own ones, or else those for both ends. -/
def endCapturesOf (own both : CaptureRecords) : CaptureRecords :=
  if own.isEmpty then both else own

mutual

/-- Compile a pattern of the grammar with this scope. -/
def PatternRecord.compile (grammar : String) : PatternRecord → Except GrammarError Pattern
  | ⟨name, contentName, matchSource, beginSource, endSource, includeText, captures,
      beginCaptures, endCaptures, patterns⟩ =>
    match includeText, matchSource, beginSource with
    | some text, _, _ => .ok (.reference (.ofText text))
    | none, some source, _ => do
      let regex ← compileRegex grammar source
      return .single ⟨name.map ScopeName.mk, regex, compileCaptures captures⟩
    | none, none, some source =>
      match endSource with
      | none => .error (.invalidPattern grammar (.beginWithoutEnd source))
      | some endSource => do
        let nested ← match patterns with
          | some records => compileAll grammar records
          | none => pure []
        let start ← compileRegex grammar source
        let stop ← compileEnd grammar endSource
        return .region
          { place := ⟨0, 0⟩
            grammar := ⟨grammar⟩
            scope := name.map ScopeName.mk
            content := contentName.map ScopeName.mk
            start
            stop
            startCaptures := compileCaptures (endCapturesOf beginCaptures captures)
            stopCaptures := compileCaptures (endCapturesOf endCaptures captures) }
          nested
    | none, none, none =>
      match patterns with
      | some records => do return .group (← compileAll grammar records)
      | none => .error (.invalidPattern grammar .nothing)

/-- Compile patterns of the grammar with this scope. -/
def compileAll (grammar : String) : List PatternRecord → Except GrammarError (List Pattern)
  | [] => .ok []
  | r :: rest => do
    let p ← r.compile grammar
    return p :: (← compileAll grammar rest)

end

mutual

/-- What is passed over in a pattern, up to the first error in it. -/
def PatternRecord.warnings (grammar : String) : PatternRecord → List Warning
  | ⟨_, _, matchSource, beginSource, endSource, includeText, captures, beginCaptures, endCaptures,
      patterns⟩ =>
    match includeText, matchSource, beginSource with
    | some _, _, _ => []
    | none, some source, _ =>
      match compileRegex grammar source with
      | .ok _ => skippedCaptures grammar captures
      | .error _ => []
    | none, none, some _ =>
      match endSource with
      | none => []
      | some _ =>
        skippedCaptures grammar (endCapturesOf beginCaptures captures)
          ++ skippedCaptures grammar (endCapturesOf endCaptures captures)
          ++ match patterns with
            | some records => warningsAll grammar records
            | none => []
    | none, none, none =>
      match patterns with
      | some records => warningsAll grammar records
      | none => []

/-- What is passed over in patterns, up to the first error in them. -/
def warningsAll (grammar : String) : List PatternRecord → List Warning
  | [] => []
  | r :: rest =>
    r.warnings grammar ++ match r.compile grammar with
      | .ok _ => warningsAll grammar rest
      | .error _ => []

end

/-- Compile named patterns. -/
def compileNamed (grammar : String) :
    List (String × PatternRecord) → Except GrammarError (List (String × Pattern))
  | [] => .ok []
  | (name, r) :: rest => do
    let p ← r.compile grammar
    return (name, p) :: (← compileNamed grammar rest)

/-- Compile a regular expression that may be absent. -/
def compileOptional (grammar : String) : Option String → Except GrammarError (Option Regex)
  | some source => (compileRegex grammar source).map some
  | none => .ok none

namespace GrammarRecord

/-- Compile a grammar. -/
def compile (r : GrammarRecord) : Except GrammarError Grammar := do
  let patterns ← compileAll r.scopeName r.patterns
  let repository ← compileNamed r.scopeName r.repository
  let foldingStart ← compileOptional r.scopeName r.foldingStartMarker
  let foldingStop ← compileOptional r.scopeName r.foldingStopMarker
  let firstLine ← compileOptional r.scopeName r.firstLineMatch
  return { scopeName := ⟨r.scopeName⟩, name := r.name, fileTypes := r.fileTypes, patterns,
           repository, foldingStart, foldingStop, firstLine }

/-- What is passed over in a grammar, up to the first error in it. -/
def warnings (r : GrammarRecord) : List Warning :=
  warningsAll r.scopeName (r.patterns ++ r.repository.map (·.2))

end GrammarRecord

namespace Grammar

/-- Compile a record that may not have been read. -/
def ofRecord (record : Option GrammarRecord) (fault : GrammarError) :
    Except GrammarError Grammar × List Warning :=
  match record with
  | some r => (r.compile, r.warnings)
  | none => (.error fault, [])

/-- Read a grammar out of a data tree. -/
def ofValue (v : Value) : Except GrammarError Grammar × List Warning :=
  ofRecord (GrammarRecord.ofValue true v) .malformedJson

/-- Read a grammar in JSON. -/
def ofJson (text : String) : Except GrammarError Grammar × List Warning :=
  ofRecord ((Data.readJson text).bind (GrammarRecord.ofValue true)) .malformedJson

/-- Read a grammar from a property list. -/
def ofPropertyList (bytes : List UInt8) : Except GrammarError Grammar × List Warning :=
  ofRecord ((Data.readPropertyList bytes).bind (GrammarRecord.ofValue false))
    .malformedPropertyList

end Grammar

end ScopePaint
