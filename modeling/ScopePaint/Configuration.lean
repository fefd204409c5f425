import ScopePaint.Files.Source
import ScopePaint.Library
import ScopePaint.Theme.Json

/-!
Configurations.

A configuration says which theme is used, where themes and grammars lie, and how grammars are used.
It is a record in JSON in which every field may be left out. Without a file there is the default
configuration, but a file that is there has to be one.
-/

set_option autoImplicit false

namespace ScopePaint

open Data (Value Fields Json)

/-- Both policies for includes of nothing. -/
def MissingPolicy.all : List MissingPolicy := [warn, error]

/-- The word for a policy. -/
def MissingPolicy.word : MissingPolicy → String
  | warn => "warn"
  | error => "error"

/-- What can be configured. The theme is a name or the path of a file. -/
structure Configuration where
  theme : String := "default"
  themeDirectories : List String := []
  grammarDirectories : List String := []
  missing : MissingPolicy := .warn
  maxLineLength : Nat := 20000
  logFilter : String := "warn"
  deriving DecidableEq, Repr

/-- Why there is no configuration. -/
inductive ConfigurationError where
  | unreadable (path : String) (fault : FileFault)
  | malformed (path : String)
  deriving DecidableEq, Repr

/-- What to say about an error. -/
def ConfigurationError.message : ConfigurationError → String
  | unreadable path fault => "failed to read config " ++ path ++ ": " ++ fault.message
  | malformed path => "invalid config " ++ path

namespace Configuration

/-- Read a configuration out of a data tree. -/
def ofValue (v : Value) : Option Configuration := do
  let fields ← Fields.ofValue true
    ["theme", "theme_dirs", "grammar_dirs", "missing_pattern", "max_line_length", "log_filter"] v
  let defaults : Configuration := {}
  let theme ← fields.defaulted 0 Value.asText defaults.theme
  let themeDirectories ← fields.defaulted 1 (Value.asList Value.asText) defaults.themeDirectories
  let grammarDirectories ←
    fields.defaulted 2 (Value.asList Value.asText) defaults.grammarDirectories
  let missing ← fields.defaulted 3
    (fun v => v.asWord.bind (findWord MissingPolicy.all MissingPolicy.word)) defaults.missing
  let maxLineLength ← fields.defaulted 4 (Value.asNatBelow (Nat.pow 2 64)) defaults.maxLineLength
  let logFilter ← fields.defaulted 5 Value.asText defaults.logFilter
  return { theme, themeDirectories, grammarDirectories, missing, maxLineLength, logFilter }

/-- Read a configuration in JSON. -/
def ofJson (text : String) : Option Configuration := (Data.readJson text).bind ofValue

/-- A configuration as it is written. -/
def toJson (c : Configuration) : Json :=
  .record [("theme", .text c.theme), ("theme_dirs", .list (c.themeDirectories.map .text)),
    ("grammar_dirs", .list (c.grammarDirectories.map .text)),
    ("missing_pattern", .text c.missing.word), ("max_line_length", .nat c.maxLineLength),
    ("log_filter", .text c.logFilter)]

/-- How grammars are used. -/
def libraryOptions (c : Configuration) : LibraryOptions := ⟨c.missing, c.maxLineLength⟩

/-- Where a configuration lies, in the directory for all configurations. -/
def defaultPath (directory : String) : String :=
  Path.join (Path.join directory "linetint") "config.json"

variable {m : Type → Type} [Monad m]

/-- Load the configuration in a file. -/
def load (files : FileSource m) (path : String) :
    m (Except ConfigurationError Configuration) := do
  match ← files.readText path with
  | .error fault => return .error (.unreadable path fault)
  | .ok text =>
    match ofJson text with
    | some c => return .ok c
    | none => return .error (.malformed path)

/-- Load the configuration in the directory for all configurations, if it is there. -/
def loadDefault (files : FileSource m) (directory : Option String) :
    m (Except ConfigurationError Configuration) := do
  match directory.map defaultPath with
  | none => return .ok {}
  | some path => if ← files.isPresent path then load files path else return .ok {}

end Configuration

end ScopePaint
