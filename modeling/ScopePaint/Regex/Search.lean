import ScopePaint.Regex.Matcher
import ScopePaint.Text.Bytes

/-!
Regular expressions and their matches.

`Regex.search` looks for the first place, from a byte offset on, where an expression matches. It
searches the whole text: look-behind sees what comes before the offset, and `\G` is the offset
itself. All offsets of a match lie between characters, and the match lies between the offset it was
looked for from and the end of the text. A search can also be given up without an answer.
-/

set_option autoImplicit false

namespace ScopePaint

open Text (Span)

/-- A compiled regular expression with its source. -/
structure Regex where
  source : String
  program : Regex.Program

/-- A match: its range and the ranges of the groups from 1 on, where they took part. -/
structure Match where
  range : Span
  groups : List (Option Span)
  deriving DecidableEq, Repr

namespace Match

/-- The range of a group; group 0 is the whole match. -/
def group (m : Match) (index : Nat) : Option Span :=
  if index = 0 then some m.range else (m.groups[index - 1]?).join

end Match

namespace Regex

/-- Compile a pattern. -/
def compile (source : String) : Except PatternError Regex := do
  let program ← Program.ofPattern source.toList
  return ⟨source, program⟩

/-- The byte range between two places, given by character counts. -/
def spanOf (cs : List Char) (start stop : Nat) : Span :=
  ⟨Text.byteOffset cs start, Text.byteOffset cs stop⟩

/-- The match that a run from the index `start` of a search from `origin` has found. The start of the
match may have been moved: where that is behind the end, the match starts at its end, and where it is
in front of the searched part, the move does not count. A match does not end before it starts. -/
def matchOf (cs : List Char) (origin start count : Nat) (s : State) : Option Match :=
  let stop := s.cursor.index
  if start ≤ stop then
    let first := if origin ≤ s.kept then min s.kept stop else start
    let groups := (List.range count).map fun i =>
      let capture := s.capture (i + 1)
      match capture.start, capture.stop with
      | some start, some stop => some (spanOf cs start.index stop)
      | _, _ => none
    some ⟨spanOf cs first stop, groups⟩
  else none

/-- The match of an attempt from one place. `cs` is the whole text, and the search began at
`origin`. -/
def attempt (p : Program) (cs : List Char) (origin : Nat) (c : Cursor) :
    Except SearchError (Option Match) :=
  (p.matchAt origin c).map (·.bind (matchOf cs origin c.index p.count))

/-- The first match from a place on. An attempt that is given up ends the search. -/
def searchFrom (p : Program) (cs : List Char) (origin : Nat) :
    List Char → Nat → List Char → Except SearchError (Option Match)
  | before, index, [] => attempt p cs origin ⟨before, [], index⟩
  | before, index, c :: after =>
    match attempt p cs origin ⟨before, c :: after, index⟩ with
    | .ok none => searchFrom p cs origin (c :: before) (index + 1) after
    | result => result

/-- The first match that starts at or behind a byte offset. -/
def search (r : Regex) (cs : List Char) (offset : Nat) : Except SearchError (Option Match) :=
  match Text.splitAtByte? offset cs with
  | none => .ok none
  | some (before, after) =>
    searchFrom r.program cs before.length before.reverse before.length after

/-- Whether an expression matches anywhere in a text. -/
def isMatch (r : Regex) (cs : List Char) : Except SearchError Bool :=
  (r.search cs 0).map (·.isSome)

end Regex

end ScopePaint
