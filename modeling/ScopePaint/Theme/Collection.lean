import ScopePaint.Files.Source
import ScopePaint.Theme.Default
import ScopePaint.Theme.Json
import ScopePaint.Theme.Selectors

/-!
Themes by their names, and loading them from files.

A collection starts with the built-in theme; a theme that is put in takes the place of one with its
name. From directories all files with the extension of a theme are loaded, directory after directory
and in the order of their paths. What cannot be read, a directory as well as a file, is passed over
with a warning.
-/

set_option autoImplicit false

namespace ScopePaint

namespace Theme

variable {m : Type → Type} [Monad m]

/-- How the file of a theme is written. -/
def format? (path : String) : Option DataFormat :=
  match Path.extension? path with
  | some "json" => some .json
  | some "tmTheme" | some "plist" => some .propertyList
  | _ => none

/-- Whether a file is one of a theme. -/
def isThemeFile (path : String) : Bool := (format? path).isSome

/-- Read a theme from the bytes of a file; the fallback is its name if it has none of its own. -/
def ofBytes (fallback : String) : DataFormat → List UInt8 → Except ThemeError Theme × List Warning
  | .json, bytes =>
    match decodeFile bytes with
    | .ok text => (ofJson text, [])
    | .error fault => (.error (.unreadable fault), [])
  | .propertyList, bytes => ofPropertyList bytes fallback

/-- The name for a theme in a file that gives it none. -/
def fallbackName (path : String) : String := (Path.stem? path).getD "untitled"

/-- Load the theme in a file. -/
def load (files : FileSource m) (path : String) :
    m (Except ThemeError Theme × List Warning) := do
  match format? path with
  | none => return (.error (.unsupportedFormat path), [])
  | some format =>
    match ← files.read path with
    | .ok bytes => return ofBytes (fallbackName path) format bytes
    | .error fault => return (.error (.unreadable fault), [])

end Theme

/-- Themes, no two of which have the same name. -/
structure ThemeCollection where
  themes : List Theme

/-- What loading themes came to: the collection, how many themes were put in, and the warnings. -/
structure LoadedThemes where
  collection : ThemeCollection
  count : Nat := 0
  warnings : List Warning := []

namespace ThemeCollection

/-- The collection of the built-in theme. -/
def builtin : ThemeCollection := ⟨[.builtin]⟩

/-- Put a theme in. -/
def insert (c : ThemeCollection) (t : Theme) : ThemeCollection :=
  ⟨t :: c.themes.filter fun other => other.name ≠ t.name⟩

/-- The theme with a name. -/
def find? (c : ThemeCollection) (name : String) : Option Theme :=
  c.themes.find? fun t => t.name = name

/-- The names of all themes, in order. -/
def names (c : ThemeCollection) : List String :=
  (c.themes.map (·.name)).mergeSort fun a b => decide (a ≤ b)

end ThemeCollection

namespace LoadedThemes

variable {m : Type → Type} [Monad m]

/-- Put in what a file was found to hold. -/
def addResult (l : LoadedThemes) (path : String) :
    Except ThemeError Theme × List Warning → LoadedThemes
  | (.ok t, warnings) => ⟨l.collection.insert t, l.count + 1, l.warnings ++ warnings⟩
  | (.error e, warnings) => { l with warnings := l.warnings ++ warnings ++ [.themeFile path e] }

/-- Put in the themes in some files. -/
def addFiles (files : FileSource m) (l : LoadedThemes) : List String → m LoadedThemes
  | [] => pure l
  | path :: rest => do
    let result ← Theme.load files path
    addFiles files (l.addResult path result) rest

/-- Put in all themes in some directories. -/
def addDirectories (files : FileSource m) (l : LoadedThemes) : List String → m LoadedThemes
  | [] => pure l
  | directory :: rest => do
    match ← files.filesIn Theme.isThemeFile directory with
    | .error fault =>
      addDirectories files
        { l with warnings := l.warnings ++ [.themeDirectory directory fault] } rest
    | .ok paths => addDirectories files (← l.addFiles files paths) rest

end LoadedThemes

namespace ThemeCollection

variable {m : Type → Type} [Monad m]

/-- Put in all themes in some directories. -/
def loadDirectories (c : ThemeCollection) (files : FileSource m) (directories : List String) :
    m LoadedThemes :=
  LoadedThemes.addDirectories files { collection := c } directories

/-- The theme with a name or, if there is none, the theme in the file that the name leads to. -/
def resolve (c : ThemeCollection) (files : FileSource m) (name : String) :
    m (Except ThemeError Theme × List Warning) := do
  match c.find? name with
  | some t => return (.ok t, [])
  | none =>
    if ← files.isFile name then Theme.load files name
    else return (.error (.unknownTheme name), [])

end ThemeCollection

end ScopePaint
