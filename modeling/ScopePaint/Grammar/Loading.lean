import ScopePaint.Files.Source
import ScopePaint.Grammar.Record
import ScopePaint.Library

/-!
Loading grammars from files.

The extension of a file tells how it is written. From directories all files with such an extension
are loaded, directory after directory and in the order of their paths, so that of two grammars with
one scope name the later one is registered in the end. Directories that cannot be read are passed
over in silence, and files that hold no grammar with a warning.
-/

set_option autoImplicit false

namespace ScopePaint

namespace Grammar

variable {m : Type → Type} [Monad m]

/-- How the file of a grammar is written. -/
def format? (path : String) : Option DataFormat :=
  match Path.extension? path with
  | some "json" => some .json
  | some "tmLanguage" | some "plist" => some .propertyList
  | _ => none

/-- Whether a file is one of a grammar. -/
def isGrammarFile (path : String) : Bool := (format? path).isSome

/-- Read a grammar from the bytes of a file. -/
def ofBytes : DataFormat → List UInt8 → Except GrammarError Grammar × List Warning
  | .json, bytes =>
    match decodeFile bytes with
    | .ok text => ofJson text
    | .error fault => (.error (.unreadable fault), [])
  | .propertyList, bytes => ofPropertyList bytes

/-- Load the grammar in a file. -/
def load (files : FileSource m) (path : String) :
    m (Except GrammarError Grammar × List Warning) := do
  match format? path with
  | none => return (.error (.unsupportedFormat path), [])
  | some format =>
    match ← files.read path with
    | .ok bytes => return ofBytes format bytes
    | .error fault => return (.error (.unreadable fault), [])

/-- Load the grammars in some files. -/
def loadFiles (files : FileSource m) :
    List String → m (List (String × Except GrammarError Grammar) × List Warning)
  | [] => pure ([], [])
  | path :: rest => do
    let (result, warnings) ← load files path
    let (results, others) ← loadFiles files rest
    return ((path, result) :: results, warnings ++ others)

/-- Load all grammars in some directories. -/
def loadDirectories (files : FileSource m) :
    List String → m (List (String × Except GrammarError Grammar) × List Warning)
  | [] => pure ([], [])
  | directory :: rest => do
    match ← files.filesIn isGrammarFile directory with
    | .error _ => loadDirectories files rest
    | .ok paths =>
      let (results, warnings) ← loadFiles files paths
      let (others, more) ← loadDirectories files rest
      return (results ++ others, warnings ++ more)

end Grammar

namespace Library

/-- Register what was loaded. Gives how many grammars there were. -/
def registerLoaded (lib : Library) :
    List (String × Except GrammarError Grammar) → Library × Nat
  | [] => (lib, 0)
  | (_, .ok g) :: rest =>
    let (lib, count) := (lib.register g).1.registerLoaded rest
    (lib, count + 1)
  | (path, .error e) :: rest => (lib.warn [.grammarFile path e]).registerLoaded rest

variable {m : Type → Type} [Monad m]

/-- Register all grammars in some directories. Gives how many there were. -/
def loadDirectories (lib : Library) (files : FileSource m) (directories : List String) :
    m (Library × Nat) := do
  let (results, warnings) ← Grammar.loadDirectories files directories
  return (lib.warn warnings).registerLoaded results

end Library

end ScopePaint
