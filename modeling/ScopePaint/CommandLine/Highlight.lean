import ScopePaint.CommandLine.Arguments
import ScopePaint.CommandLine.Usage
import ScopePaint.Configuration
import ScopePaint.Document.Report
import ScopePaint.Grammar.Loading
import ScopePaint.Style.TerminalText
import ScopePaint.Theme.Collection

/-!
Highlighting a file from the command line.

The configuration comes first, then the grammars, the themes and the file itself; the first of them
that cannot be had decides what is said. What was printed before tokenizing failed stays printed.
-/

set_option autoImplicit false

namespace ScopePaint.CommandLine

/-- Why a file cannot be highlighted. -/
inductive HighlightError where
  | configuration (cause : ConfigurationError)
  | grammarFile (path : String) (cause : GrammarError)
  | noGrammar (path : String)
  | theme (name : String) (cause : ThemeError)
  | source (path : String) (fault : FileFault)
  | tokenizing (cause : Failure)
  | unprintable
  deriving DecidableEq, Repr

/-- How a run ended: what was printed, the exit code, what was said about an error, and what was
passed over. -/
structure Outcome where
  output : String := ""
  exitCode : Nat := 0
  error : Option String := none
  warnings : List Warning := []
  deriving DecidableEq, Repr

namespace HighlightError

/-- What to say about an error. There is nothing to say where the program breaks down. -/
def message? : HighlightError → Option String
  | configuration cause => some cause.message
  | grammarFile path _ => some ("failed to load grammar " ++ path)
  | noGrammar path => some ("no grammar found for " ++ path)
  | theme name _ => some ("failed to load theme " ++ Text.quoted name)
  | source path _ => some ("failed to read " ++ path)
  | tokenizing (.grammar cause) => some cause.message
  | tokenizing _ | unprintable => none

/-- The exit code of a run that ends with an error. -/
def exitCode (e : HighlightError) : Nat := if e.message?.isSome then 1 else 101

end HighlightError

/-- A document with the library for it. -/
structure Prepared where
  library : Library
  document : Document

variable {m : Type → Type} [Monad m]

/-- The configuration that is asked for, or the default one. -/
def loadConfiguration (files : FileSource m) (directory : Option String) :
    Option String → m (Except ConfigurationError Configuration)
  | some path => Configuration.load files path
  | none => Configuration.loadDefault files directory

/-- Find the grammar for a file: the one that is asked for, or one of the library. -/
def chooseGrammar (files : FileSource m) (lib : Library) (file : String) :
    Option String → m (Except HighlightError Nat × Library)
  | some path => do
    let (result, warnings) ← Grammar.load files path
    let lib := lib.warn warnings
    match result with
    | .error cause => return (.error (.grammarFile path cause), lib)
    | .ok g =>
      let (lib, id) := lib.register g
      return (.ok id, lib)
  | none =>
    match (lib.forFile? file).bind lib.id? with
    | some id => return (.ok id, lib)
    | none => return (.error (.noGrammar file), lib)

/-- Find the theme that is asked for, or the configured one. -/
def chooseTheme (files : FileSource m) (config : Configuration) (name : String) :
    m (Except HighlightError Theme × List Warning) := do
  let loaded ← ThemeCollection.builtin.loadDirectories files config.themeDirectories
  let (result, warnings) ← loaded.collection.resolve files name
  return (result.mapError (.theme name), loaded.warnings ++ warnings)

/-- Load everything that highlighting takes. -/
def prepare (files : FileSource m) (config : Configuration) (a : Arguments) :
    m (Except HighlightError Prepared × List Warning) := do
  let (lib, _) ← (Library.empty config.libraryOptions).loadDirectories files
    config.grammarDirectories
  let (grammar, lib) ← chooseGrammar files lib a.file a.grammar
  match grammar with
  | .error e => return (.error e, lib.log)
  | .ok id =>
    let (theme, warnings) ← chooseTheme files config (a.theme.getD config.theme)
    let lib := lib.warn warnings
    match theme with
    | .error e => return (.error e, lib.log)
    | .ok theme =>
      match ← files.readText a.file with
      | .error fault => return (.error (.source a.file fault), lib.log)
      | .ok text => return (.ok ⟨lib, .ofText id theme text⟩, lib.log)

/-- Show a document with the codes of a terminal. -/
def showTerminal (p : Prepared) (selected : Bool) : String × Except HighlightError Unit × Library :=
  let selection := if selected then some ⟨0, p.document.lines.length⟩ else none
  match p.document.styled p.library selection with
  | (.error e, lib, _) => ("", .error (.tokenizing e), lib)
  | (.ok text, lib, _) =>
    match text.terminalPieces? with
    | some pieces => (String.join (pieces.map TerminalPiece.render), .ok (), lib)
    | none => ("", .error .unprintable, lib)

/-- Show the tokens of a document, each line of it on a line. -/
def showReport (p : Prepared) : String × Except HighlightError Unit × Library :=
  let (reports, outcome, lib, _) := p.document.report p.library
  (String.join (reports.map fun r => r.toJson.compact ++ "\n"), outcome.mapError .tokenizing, lib)

/-- Show a document. -/
def render (p : Prepared) (a : Arguments) : String × Except HighlightError Unit × Library :=
  match a.format with
  | .ansi => showTerminal p a.selected
  | .json => showReport p

/-- The outcome of a run that ends with an error. -/
def failed (e : HighlightError) (output : String) (warnings : List Warning) : Outcome :=
  ⟨output, e.exitCode, e.message?, warnings⟩

/-- Highlight a file. The directory is the one for all configurations. -/
def highlight (files : FileSource m) (directory : Option String) (a : Arguments) : m Outcome := do
  match ← loadConfiguration files directory a.config with
  | .error e => return failed (.configuration e) "" []
  | .ok config =>
    match ← prepare files config a with
    | (.error e, warnings) => return failed e "" warnings
    | (.ok p, _) =>
      match render p a with
      | (output, .ok (), lib) => return { output, warnings := lib.log }
      | (output, .error e, lib) => return failed e output lib.log

/-- Run the highlighter. -/
def run (files : FileSource m) (directory : Option String) (arguments : List String) :
    m Outcome :=
  match Request.ofArguments arguments with
  | .highlight a => highlight files directory a
  | .help long => return { output := helpText long }
  | .version => return { output := versionText }
  | .misuse => return { exitCode := 2 }

end ScopePaint.CommandLine
