import ScopePaint.Files.Fault
import ScopePaint.Regex.Escape
import ScopePaint.Text.Quoted

/-!
Why something is not a grammar, or a grammar cannot be used.
-/

set_option autoImplicit false

namespace ScopePaint

/-- What a pattern of a grammar lacks. -/
inductive PatternFault where
  | beginWithoutEnd (source : String)
  | nothing
  deriving DecidableEq, Repr

/-- What to say about an unusable pattern. -/
def PatternFault.message : PatternFault → String
  | beginWithoutEnd source => "begin pattern " ++ Text.quoted source ++ " has no end"
  | nothing => "pattern has none of match, begin, include or patterns"

/-- Why a grammar cannot be read or used. Where a grammar is named, it is named by its scope. -/
inductive GrammarError where
  | unreadable (fault : FileFault)
  | malformedJson
  | malformedPropertyList
  | invalidRegex (grammar source : String) (cause : Regex.PatternError)
  | invalidPattern (grammar : String) (fault : PatternFault)
  | missingPattern (grammar name : String)
  | missingGrammar (grammar scope : String)
  | unsupportedFormat (path : String)
  deriving DecidableEq, Repr

/-- What to say about an error. -/
def GrammarError.message : GrammarError → String
  | unreadable fault => "failed to read grammar: " ++ fault.message
  | malformedJson => "invalid grammar JSON"
  | malformedPropertyList => "invalid grammar plist"
  | invalidRegex grammar source _ =>
    "grammar " ++ grammar ++ ": invalid regex " ++ Text.quoted source
  | invalidPattern grammar fault => "grammar " ++ grammar ++ ": " ++ fault.message
  | missingPattern grammar name =>
    "grammar " ++ grammar ++ ": repository has no pattern named " ++ Text.quoted name
  | missingGrammar grammar scope =>
    "grammar " ++ grammar ++ ": included grammar " ++ Text.quoted scope ++ " is not registered"
  | unsupportedFormat path => "unsupported grammar file format: " ++ path

end ScopePaint
