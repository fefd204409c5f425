import ScopePaint.Color
import ScopePaint.Files.Fault

/-!
Why something is not a theme, or a theme is not there.
-/

set_option autoImplicit false

namespace ScopePaint

/-- Why there is no theme. -/
inductive ThemeError where
  | unreadable (fault : FileFault)
  | malformedJson
  | malformedPropertyList
  | invalidColor (theme : String) (cause : InvalidColor)
  | missingRootSetting (theme : String)
  | unsupportedFormat (path : String)
  | unknownTheme (name : String)
  deriving DecidableEq, Repr

/-- What to say about an error. -/
def ThemeError.message : ThemeError → String
  | unreadable fault => "failed to read theme: " ++ fault.message
  | malformedJson => "invalid theme JSON"
  | malformedPropertyList => "invalid theme plist"
  | invalidColor theme cause => "theme " ++ Text.quoted theme ++ ": " ++ cause.message
  | missingRootSetting theme =>
    "theme " ++ Text.quoted theme ++ " has no setting for the root scope \x60source\x60"
  | unsupportedFormat path => "unsupported theme file format: " ++ path
  | unknownTheme name => "no theme named " ++ Text.quoted name

end ScopePaint
