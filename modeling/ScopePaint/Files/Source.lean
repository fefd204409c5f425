import ScopePaint.Files.Fault
import ScopePaint.Files.Path

/-!
Where files come from.

A source of files answers four questions about paths. What reads files takes a source in any monad:
a tree of files in memory answers at once, and a file system answers as the outer world has it.
-/

set_option autoImplicit false

namespace ScopePaint

/-- A source of files: the bytes of a file, the names in a directory in whatever order, whether a
path leads to a file, and whether it leads anywhere. -/
structure FileSource (m : Type → Type) where
  read : String → m (Except FileFault (List UInt8))
  names : String → m (Except FileFault (List String))
  isFile : String → m Bool
  isPresent : String → m Bool

/-- The characters of a file. -/
def decodeFile (bytes : List UInt8) : Except FileFault String :=
  match String.fromUTF8? ⟨bytes.toArray⟩ with
  | some text => .ok text
  | none => .error .invalidText

namespace FileSource

variable {m : Type → Type} [Monad m]

/-- The characters of the file that a path leads to. -/
def readText (files : FileSource m) (path : String) : m (Except FileFault String) := do
  return (← files.read path).bind decodeFile

/-- The paths that lead to files, in the order in which they are given. -/
def onlyFiles (files : FileSource m) : List String → m (List String)
  | [] => pure []
  | path :: rest => do
    let here ← files.isFile path
    let others ← files.onlyFiles rest
    return if here then path :: others else others

/-- The paths of the wanted files that lie directly in a directory, in order. -/
def filesIn (files : FileSource m) (isWanted : String → Bool) (directory : String) :
    m (Except FileFault (List String)) := do
  match ← files.names directory with
  | .error fault => return .error fault
  | .ok names =>
    let paths ← files.onlyFiles ((names.map (Path.join directory)).filter isWanted)
    return .ok (paths.mergeSort fun a b => decide (a ≤ b))

end FileSource

/-- How a file with data is written. -/
inductive DataFormat where
  | json | propertyList
  deriving DecidableEq, Repr

end ScopePaint
