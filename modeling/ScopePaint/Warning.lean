import ScopePaint.Grammar.Error
import ScopePaint.Theme.Error

/-!
Warnings.

What is odd about a grammar, a theme or a directory, but no reason to stop, is passed over with a
warning.
-/

set_option autoImplicit false

namespace ScopePaint

/-- What was passed over. -/
inductive Warning where
  | includeCycle (key grammar : String)
  | repositoryCycle (key : String)
  | unresolved (error : GrammarError)
  | captureKey (grammar key : String)
  | skippedSelector (text : String)
  | skippedAttribute (kind : String)
  | grammarFile (path : String) (error : GrammarError)
  | themeFile (path : String) (error : ThemeError)
  | themeDirectory (path : String) (fault : FileFault)
  deriving DecidableEq, Repr

/-- What to say. -/
def Warning.message : Warning → String
  | includeCycle key grammar => "include cycle through " ++ key ++ " in " ++ grammar
  | repositoryCycle key => "include cycle through " ++ key
  | unresolved error => error.message ++ "; resolving it to no rules"
  | captureKey grammar key => grammar ++ ": ignoring capture key " ++ Text.quoted key
  | skippedSelector text => "skipping unsupported tmTheme selector " ++ Text.quoted text
  | skippedAttribute kind => "skipping theme attribute " ++ Text.quoted kind ++ ": not supported"
  | grammarFile path error => "failed to load grammar " ++ path ++ ": " ++ error.message
  | themeFile path error => "failed to load theme " ++ path ++ ": " ++ error.message
  | themeDirectory path fault => "cannot read theme directory " ++ path ++ ": " ++ fault.message

end ScopePaint
