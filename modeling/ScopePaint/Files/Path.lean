import ScopePaint.Text.Pieces

/-!
Paths of files.

A path is made of parts between slashes; empty parts and single dots do not count. The last part is
the name of the file, unless it leads upwards. A name has an extension behind its last dot, except
if that is its first character.
-/

set_option autoImplicit false

namespace ScopePaint.Path

/-- The parts of a path that lead somewhere. -/
def parts (path : String) : List String :=
  (Text.split '/' path).filter fun part => part ≠ "" ∧ part ≠ "."

/-- Whether a path begins at the root. -/
def isAbsolute (path : String) : Bool := path.toList.head? == some '/'

/-- The name of the file that a path leads to. -/
def fileName? (path : String) : Option String :=
  match (parts path).getLast? with
  | some name => if name = ".." then none else some name
  | none => none

/-- What comes before the last dot of a name and what comes behind it; a dot at the start does not
count. -/
def splitName (name : String) : String × Option String :=
  match Text.cutAt? '.' name.toList.reverse with
  | some (_, []) | none => (name, none)
  | some (extension, stem) => (String.ofList stem.reverse, some (String.ofList extension.reverse))

/-- The extension of the file that a path leads to. -/
def extension? (path : String) : Option String :=
  (fileName? path).bind fun name => (splitName name).2

/-- The name of the file that a path leads to, without its extension. -/
def stem? (path : String) : Option String := (fileName? path).map fun name => (splitName name).1

/-- The path of a file in a directory. -/
def join (directory name : String) : String :=
  if isAbsolute name ∨ directory = "" then name
  else if directory.toList.getLast? = some '/' then directory ++ name
  else directory ++ "/" ++ name

end ScopePaint.Path
