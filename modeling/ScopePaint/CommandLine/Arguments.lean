/-!
The arguments of the highlighter.

Arguments are read from left to right. An option is given by its name, with its value behind an
equals sign or as the next argument; behind two dashes alone there are no more options. The first
mistake, or the first wish for help or for the version, decides.
-/

set_option autoImplicit false

namespace ScopePaint.CommandLine

/-- How a highlighted file is shown. -/
inductive OutputFormat where
  | ansi | json
  deriving DecidableEq, Repr

/-- What is to be highlighted, and how. -/
structure Arguments where
  file : String
  grammar : Option String := none
  theme : Option String := none
  config : Option String := none
  selected : Bool := false
  format : OutputFormat := .ansi
  deriving DecidableEq, Repr

/-- What the arguments ask for. -/
inductive Request where
  | highlight (arguments : Arguments)
  | help (long : Bool)
  | version
  | misuse
  deriving DecidableEq, Repr

/-- The format with a name. -/
def OutputFormat.ofWord? : String → Option OutputFormat
  | "ansi" => some ansi
  | "json" => some json
  | _ => none

/-- The arguments that have been read so far. -/
structure Given where
  file : Option String := none
  grammar : Option String := none
  theme : Option String := none
  config : Option String := none
  selected : Bool := false
  format : Option OutputFormat := none

namespace Given

/-- A path that is given once and is not empty. -/
def path? (old : Option String) (value : String) : Option (Option String) :=
  if old.isSome ∨ value = "" then none else some (some value)

/-- Give an option its value, unless it has one or the value will not do. -/
def setOption (g : Given) (name value : String) : Option Given :=
  match name with
  | "grammar" => (path? g.grammar value).map fun grammar => { g with grammar }
  | "config" => (path? g.config value).map fun config => { g with config }
  | "theme" => if g.theme.isSome then none else some { g with theme := some value }
  | "format" =>
    if g.format.isSome then none
    else (OutputFormat.ofWord? value).map fun format => { g with format := some format }
  | _ => none

/-- Give the file, of which there is only one. -/
def setFile (g : Given) (value : String) : Option Given :=
  (path? g.file value).map fun file => { g with file }

/-- What is asked for if there are no more arguments. -/
def finish (g : Given) : Request :=
  match g.file with
  | none => .misuse
  | some file =>
    .highlight ⟨file, g.grammar, g.theme, g.config, g.selected, g.format.getD .ansi⟩

end Given

/-- An argument by its form. A lone dash is a plain argument. -/
inductive Form where
  | endOfOptions
  | long (name : String) (value : Option String)
  | short (letter : Char)
  | plain
  deriving DecidableEq, Repr

/-- A long option, cut at the first equals sign. -/
def Form.ofLong (cs : List Char) : Form :=
  match cs.dropWhile (· ≠ '=') with
  | [] => long (String.ofList cs) none
  | _ :: value => long (String.ofList (cs.takeWhile (· ≠ '='))) (some (String.ofList value))

/-- The form of an argument. -/
def Form.ofText (argument : String) : Form :=
  match argument.toList with
  | ['-', '-'] => endOfOptions
  | '-' :: '-' :: rest => ofLong rest
  | ['-'] => plain
  | '-' :: letter :: _ => short letter
  | _ => plain

/-- Read arguments behind the end of options. -/
def readPlain (g : Given) : List String → Request
  | [] => g.finish
  | argument :: rest =>
    match g.setFile argument with
    | some g => readPlain g rest
    | none => .misuse

/-- Read arguments. If an option without its value came before, the next argument is its value. -/
def readFrom (g : Given) : Option String → List String → Request
  | none, [] => g.finish
  | some _, [] => .misuse
  | some name, argument :: rest =>
    match Form.ofText argument with
    | .plain =>
      match g.setOption name argument with
      | some g => readFrom g none rest
      | none => .misuse
    | _ => .misuse
  | none, argument :: rest =>
    match Form.ofText argument with
    | .endOfOptions => readPlain g rest
    | .plain =>
      match g.setFile argument with
      | some g => readFrom g none rest
      | none => .misuse
    | .long name (some value) =>
      match g.setOption name value with
      | some g => readFrom g none rest
      | none => .misuse
    | .long "help" none => .help true
    | .long "version" none => .version
    | .long "selected" none =>
      if g.selected then .misuse else readFrom { g with selected := true } none rest
    | .long name none => readFrom g (some name) rest
    | .short 'h' => .help false
    | .short 'V' => .version
    | .short _ => .misuse

/-- What the arguments ask for. -/
def Request.ofArguments (arguments : List String) : Request := readFrom {} none arguments

end ScopePaint.CommandLine
