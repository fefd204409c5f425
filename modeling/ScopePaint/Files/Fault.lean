/-!
Why a file cannot be read.
-/

set_option autoImplicit false

namespace ScopePaint

/-- What is wrong with a file: it or a directory on the way to it is missing, something on the
way is no directory, it is a directory itself, or it is not made of characters. -/
inductive FileFault where
  | notFound | notADirectory | isADirectory | invalidText
  deriving DecidableEq, Repr

/-- What to say about a fault. -/
def FileFault.message : FileFault → String
  | notFound => "No such file or directory (os error 2)"
  | notADirectory => "Not a directory (os error 20)"
  | isADirectory => "Is a directory (os error 21)"
  | invalidText => "stream did not contain valid UTF-8"

end ScopePaint
