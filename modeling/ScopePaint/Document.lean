import ScopePaint.Tokens.Tokenizer

/-!
Documents that change.

Each line of a document keeps its tokens and the scopes at its end. An edit tokenizes nothing: it
marks lines as stale, and stale lines are tokenized when someone asks for a line at or behind them.
Tokenizing a line makes the next one stale, unless the scopes at the end of the line are equivalent
to those that were there before. So an edit that leaves the nesting behind it as it was costs no
more than the lines it puts in.

A line that is put in where lines were is given the scopes at the end of those lines, to be compared
with its own ones later. Styles are kept with the tokens, so a new theme makes all lines stale and
forgets what they kept.
-/

set_option autoImplicit false

namespace ScopePaint

open Text (Span)

/-- A line of a document. What it keeps counts only if it is not stale. -/
structure DocumentLine where
  text : String
  tokens : Option TokenLine := none
  endState : Option LineState := none
  stale : Bool := true

/-- A document in the grammar with a number. Lines before the first `valid` ones are up to date;
`tokenized` counts how many lines were tokenized so far. -/
structure Document where
  grammar : Nat
  theme : Theme
  lines : List DocumentLine
  valid : Nat := 0
  tokenized : Nat := 0

namespace DocumentLine

/-- A line of which nothing is known but its text. -/
def ofText (text : String) : DocumentLine := { text }

/-- A line that has to be tokenized anew. -/
def markStale (line : DocumentLine) : DocumentLine := { line with stale := true }

/-- Whether the scopes at the ends of two lines are known and equivalent. -/
def endsLike (a b : DocumentLine) : Bool :=
  match a.endState, b.endState with
  | some s, some t => s.isEquivalent t
  | _, _ => false

/-- The state in which a line starts: the given one or, without one, that in which documents
start. -/
def startState (lib : Library) (id : Nat) (theme : Theme) :
    Option LineState → Except Failure LineState × Library
  | some state => (.ok state, lib)
  | none => lib.firstLineState id theme

/-- Tokenize a line that starts in the given state, or without one where documents start. -/
def tokenize (line : DocumentLine) (lib : Library) (id : Nat) (theme : Theme)
    (start : Option LineState) : Except Failure DocumentLine × Library :=
  match startState lib id theme start with
  | (.error e, lib) => (.error e, lib)
  | (.ok state, lib) =>
    match lib.tokenizeLine id theme line.text.toList state with
    | (.error e, lib) => (.error e, lib)
    | (.ok (tokens, state), lib) =>
      (.ok { line with tokens := some tokens, endState := some state, stale := false }, lib)

end DocumentLine

/-- What became of lines that were to be brought up to date: an error, if there was one, the lines,
how many of them are up to date, and how many were tokenized. -/
structure Refreshed where
  outcome : Except Failure Unit
  library : Library
  lines : List DocumentLine
  valid : Nat := 0
  tokenized : Nat := 0

namespace Refreshed

/-- One more line in front that is up to date. -/
def cons (line : DocumentLine) (fresh : Nat) (r : Refreshed) : Refreshed :=
  { r with lines := line :: r.lines, valid := r.valid + 1, tokenized := r.tokenized + fresh }

/-- Make the first line stale. -/
def markFirst : List DocumentLine → List DocumentLine
  | [] => []
  | line :: rest => line.markStale :: rest

/-- Bring the first lines up to date, as many as the number says. The state before them is given,
unless they are the first ones of a document. -/
def ofLines (id : Nat) (theme : Theme) : Nat → Option LineState → Library → List DocumentLine →
    Refreshed
  | 0, _, lib, lines => ⟨.ok (), lib, lines, 0, 0⟩
  | _, _, lib, [] => ⟨.ok (), lib, [], 0, 0⟩
  | n + 1, start, lib, line :: rest =>
    if line.stale then
      match line.tokenize lib id theme start with
      | (.error e, lib) => ⟨.error e, lib, line :: rest, 0, 0⟩
      | (.ok fresh, lib) =>
        let rest := if line.endsLike fresh then rest else markFirst rest
        (ofLines id theme n fresh.endState lib rest).cons fresh 1
    else (ofLines id theme n line.endState lib rest).cons line 0

end Refreshed

namespace Document

/-- The lines of a text, without carriage returns at their ends. -/
def splitLines (text : String) : List String :=
  (Text.split '\n' text).map fun line =>
    match line.toList.reverse with
    | '\r' :: rest => String.ofList rest.reverse
    | _ => line

/-- A document with a text. -/
def ofText (grammar : Nat) (theme : Theme) (text : String) : Document :=
  { grammar, theme, lines := (splitLines text).map .ofText }

/-- The text of a line. -/
def lineText? (d : Document) (index : Nat) : Option String := (d.lines[index]?).map (·.text)

/-- Give the last of some lines a state to compare its end with. -/
def carry (state : Option LineState) : List DocumentLine → List DocumentLine
  | [] => []
  | [line] => [{ line with endState := state }]
  | line :: rest => line :: carry state rest

/-- The state at the end of the lines before an index, if it is known. -/
def stateBefore (d : Document) (index : Nat) : Option LineState :=
  match index with
  | 0 => none
  | n + 1 => (d.lines[n]?).bind (·.endState)

/-- Put lines in the place of others. The range may be reversed or reach behind the last line. -/
def replace (d : Document) (range : Span) (texts : List String) : Document :=
  let stop := min range.stop d.lines.length
  let start := min range.start stop
  let behind := d.lines.drop stop
  { d with
    lines := d.lines.take start ++ carry (d.stateBefore stop) (texts.map .ofText)
      ++ if texts.isEmpty then Refreshed.markFirst behind else behind
    valid := min d.valid start }

/-- Change the theme. -/
def setTheme (d : Document) (theme : Theme) : Document :=
  { d with theme, lines := d.lines.map fun line => .ofText line.text, valid := 0 }

/-- Bring the lines up to an index up to date. After an error what was done before it is kept. -/
def refresh (d : Document) (lib : Library) (index : Nat) :
    Except Failure Unit × Library × Document :=
  let r := Refreshed.ofLines d.grammar d.theme (index + 1 - d.valid) (d.stateBefore d.valid) lib
    (d.lines.drop d.valid)
  (r.outcome, r.library,
    { d with
      lines := d.lines.take d.valid ++ r.lines
      valid := d.valid + r.valid
      tokenized := d.tokenized + r.tokenized })

/-- The tokens of a line, if there is such a line. -/
def tokens (d : Document) (lib : Library) (index : Nat) :
    Except Failure (Option TokenLine) × Library × Document :=
  match d.refresh lib index with
  | (.error e, lib, d) => (.error e, lib, d)
  | (.ok (), lib, d) => (.ok ((d.lines[index]?).bind (·.tokens)), lib, d)

/-- The styled text of a line that was tokenized. -/
def styleTokens (line : DocumentLine) (selected : Bool) : StyledText × List Warning :=
  let text := StyledText.ofString line.text
  match line.tokens with
  | some tokens => (tokens.apply text 0 selected true, tokens.skipped selected true)
  | none => (text, [])

/-- The styled text of a line, if there is such a line. -/
def styleLine (d : Document) (lib : Library) (index : Nat) (selected : Bool) :
    Except Failure (Option StyledText) × Library × Document :=
  match d.refresh lib index with
  | (.error e, lib, d) => (.error e, lib, d)
  | (.ok (), lib, d) =>
    match d.lines[index]? with
    | none => (.ok none, lib, d)
    | some line =>
      let (text, skipped) := styleTokens line selected
      (.ok (some text), lib.warn skipped, d)

/-- Append a line to a styled text. -/
def appendLine (text : StyledText) (line : DocumentLine) (selected : Bool) :
    StyledText × List Warning :=
  let start := text.length
  let text := text.append line.text.toList
  match line.tokens with
  | some tokens => (tokens.apply text start selected true, tokens.skipped selected true)
  | none => (text, [])

/-- Append lines to a styled text, with line breaks between all lines. The number is that of the
first of them. -/
def appendLines (selected : Nat → Bool) :
    Nat → StyledText → List DocumentLine → StyledText × List Warning
  | _, text, [] => (text, [])
  | index, text, line :: rest =>
    let text := if index = 0 then text else text.append ['\n']
    let (text, skipped) := appendLine text line (selected index)
    let (text, others) := appendLines selected (index + 1) text rest
    (text, skipped ++ others)

/-- Whether a line is one of the selected ones. -/
def isSelected (selection : Option Span) (index : Nat) : Bool :=
  selection.any fun range => range.contains index

/-- The styled text of a whole document, some of whose lines may be selected. -/
def styled (d : Document) (lib : Library) (selection : Option Span) :
    Except Failure StyledText × Library × Document :=
  match d.refresh lib (d.lines.length - 1) with
  | (.error e, lib, d) => (.error e, lib, d)
  | (.ok (), lib, d) =>
    let (text, skipped) := appendLines (isSelected selection) 0 (.ofChars []) d.lines
    (.ok text, lib.warn skipped, d)

end Document

end ScopePaint
