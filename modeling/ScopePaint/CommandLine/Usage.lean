import ScopePaint.Text.Pieces

/-!
What the highlighter says about itself.
-/

set_option autoImplicit false

namespace ScopePaint.CommandLine

/-- The name and the version of the program. -/
def versionText : String := "linetint 0.1.0\n"

/-- What the program is and how it is called. -/
def usageLines : List String := [
  "Scope-based theming engine for tokenized source lines (TextMate grammars and themes)",
  "",
  "Usage: linetint [OPTIONS] <FILE>",
  ""]

/-- The help in one line for each argument. -/
def shortHelpLines : List String := [
  "Arguments:",
  "  <FILE>  File to highlight",
  "",
  "Options:",
  "      --grammar <GRAMMAR>  Grammar file (.json or .tmLanguage); defaults to one matching the file",
  "      --theme <THEME>      Theme name or theme file; defaults to the configured theme",
  "      --config <CONFIG>    Configuration file instead of the default location",
  "      --selected           Style every line as part of the selection",
  "      --format <FORMAT>    [default: ansi] [possible values: ansi, json]",
  "  -h, --help               Print help (see more with '--help')",
  "  -V, --version            Print version",
  ""]

/-- The help in a paragraph for each argument. -/
def longHelpLines : List String := [
  "Arguments:",
  "  <FILE>",
  "          File to highlight",
  "",
  "Options:",
  "      --grammar <GRAMMAR>",
  "          Grammar file (.json or .tmLanguage); defaults to one matching the file",
  "",
  "      --theme <THEME>",
  "          Theme name or theme file; defaults to the configured theme",
  "",
  "      --config <CONFIG>",
  "          Configuration file instead of the default location",
  "",
  "      --selected",
  "          Style every line as part of the selection",
  "",
  "      --format <FORMAT>",
  "          Possible values:",
  "          - ansi: Styled text with terminal escape sequences",
  "          - json: One JSON object per line with its tokens and scopes",
  "          ",
  "          [default: ansi]",
  "",
  "  -h, --help",
  "          Print help (see a summary with '-h')",
  "",
  "  -V, --version",
  "          Print version",
  ""]

/-- The help. -/
def helpText (long : Bool) : String :=
  Text.join "\n" (usageLines ++ if long then longHelpLines else shortHelpLines)

end ScopePaint.CommandLine
