import ScopePaint.Data.Json
import ScopePaint.Document

/-!
Reports on the tokens of a document: for each line its number, and for each of its tokens the place,
the text and the names of the scopes around it.
-/

set_option autoImplicit false

namespace ScopePaint

open Data (Json)
open Text (Span)

/-- What is reported of a token; the scopes are named from the outermost one inwards. -/
structure TokenReport where
  range : Span
  text : List Char
  scopes : List ScopeName
  deriving DecidableEq, Repr

/-- What is reported of a line. -/
structure LineReport where
  line : Nat
  tokens : List TokenReport
  deriving DecidableEq, Repr

namespace TokenReport

/-- Report on a token of a line. -/
def ofToken (text : List Char) (t : Token) : TokenReport :=
  ⟨t.range, (Text.slice? text t.range).getD [], t.scopes.path⟩

/-- A report as it is written. -/
def toJson (r : TokenReport) : Json :=
  .record [("start", .nat r.range.start), ("end", .nat r.range.stop),
    ("text", .text (String.ofList r.text)), ("scopes", .list (r.scopes.map fun s => .text s.text))]

end TokenReport

namespace LineReport

/-- Report on the tokens of a line. -/
def ofTokens (line : Nat) (text : String) (tokens : TokenLine) : LineReport :=
  ⟨line, tokens.tokens.map (.ofToken text.toList)⟩

/-- A report as it is written. -/
def toJson (r : LineReport) : Json :=
  .record [("line", .nat r.line), ("tokens", .list (r.tokens.map TokenReport.toJson))]

end LineReport

namespace Document

/-- Report on the lines with the given numbers, up to the first that cannot be tokenized. -/
def reportLines (d : Document) (lib : Library) :
    List Nat → List LineReport × Except Failure Unit × Library × Document
  | [] => ([], .ok (), lib, d)
  | index :: rest =>
    match d.tokens lib index with
    | (.error e, lib, d) => ([], .error e, lib, d)
    | (.ok tokens, lib, d) =>
      let report := tokens.map (.ofTokens index ((d.lineText? index).getD ""))
      let (reports, outcome) := d.reportLines lib rest
      (report.toList ++ reports, outcome)

/-- Report on all lines. -/
def report (d : Document) (lib : Library) :
    List LineReport × Except Failure Unit × Library × Document :=
  d.reportLines lib (List.range d.lines.length)

end Document

end ScopePaint
