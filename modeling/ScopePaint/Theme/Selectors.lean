import ScopePaint.Data.PropertyList
import ScopePaint.Theme.Theme
import ScopePaint.Warning

/-!
Themes with selectors, in property lists.

An entry of such a theme has one style for several selectors between commas. In `meta.tag string`
the last scope is the one that is styled, and those before it have to be around it. An entry without
a selector styles all text. Selectors with operators are skipped.
-/

set_option autoImplicit false

namespace ScopePaint

open Data (Value Fields)

/-- The style of an entry: two colors and flags for the font. -/
structure SelectorStyle where
  foreground : Option String
  background : Option String
  fontStyle : Option String
  deriving DecidableEq, Repr

/-- An entry: selectors and their style. -/
structure SelectorEntry where
  selectors : Option String
  style : SelectorStyle
  deriving DecidableEq, Repr

/-- A theme as a property list holds it. -/
structure SelectorTheme where
  name : Option String
  entries : List SelectorEntry
  deriving DecidableEq, Repr

namespace SelectorStyle

/-- Read a style. -/
def ofValue (v : Value) : Option SelectorStyle := do
  let fields ← Fields.ofValue false ["foreground", "background", "fontStyle"] v
  return ⟨← fields.optional 0 Value.asText, ← fields.optional 1 Value.asText,
    ← fields.optional 2 Value.asText⟩

/-- The attribute for a flag of the font; others are ignored. -/
def flagAttribute (flag : List Char) : List ThemeAttribute :=
  match String.ofList flag with
  | "bold" => [.bold]
  | "italic" => [.italic]
  | "underline" => [.underline none .single]
  | _ => []

/-- The attribute for a color. -/
def colorAttribute (make : Color → ThemeAttribute) :
    Option String → Except InvalidColor (List ThemeAttribute)
  | some s => (Color.ofText s).map fun c => [make c]
  | none => .ok []

/-- The attributes of a style. -/
def attributes (s : SelectorStyle) : Except InvalidColor (List ThemeAttribute) := do
  let foreground ← colorAttribute .color s.foreground
  let background ← colorAttribute (.backgroundColor · .none .text) s.background
  let flags := (Unicode.parts (s.fontStyle.getD "").toList).flatMap flagAttribute
  return foreground ++ background ++ flags

end SelectorStyle

/-- Whether a part of a selector is an operator, or begins like one. -/
def isSelectorOperator (part : List Char) : Bool :=
  match part with
  | ['|'] | ['&'] | [')'] => true
  | '-' :: _ | '(' :: _ => true
  | _ => false

/-- Whether a character gives a reason to look for operators. -/
def hintsAtOperator (c : Char) : Bool := c == '-' || c == '|' || c == '(' || c == '&'

/-- What a selector says. -/
inductive Selector where
  | blank
  | unsupported
  | path (scope : ScopeName) (parents : List ScopeName)
  deriving DecidableEq, Repr

/-- Read a selector. A closing parenthesis alone is no reason to look for operators. -/
def Selector.ofChars (cs : List Char) : Selector :=
  let parts := Unicode.parts cs
  if cs.any hintsAtOperator ∧ parts.any isSelectorOperator then unsupported
  else
    match parts.reverse with
    | [] => blank
    | scope :: parents =>
      path ⟨String.ofList scope⟩ (parents.reverse.map fun part => ⟨String.ofList part⟩)

namespace SelectorEntry

/-- Read an entry. -/
def ofValue (v : Value) : Option SelectorEntry := do
  let fields ← Fields.ofValue false ["scope", "settings"] v
  return ⟨← fields.optional 0 Value.asText, ← fields.required 1 SelectorStyle.ofValue⟩

/-- The text of an entry's selectors without white space around, if there is any. -/
def selectorText? (e : SelectorEntry) : Option (List Char) :=
  match e.selectors.map fun s => Text.trim s.toList with
  | none | some [] => none
  | some cs => some cs

/-- The setting that a selector stands for. -/
def settingOf (attributes : List ThemeAttribute) (selector : List Char) : Option ThemeSetting :=
  match Selector.ofChars selector with
  | .path scope parents => some { scope, parents, attributes }
  | _ => none

/-- The settings of an entry with these attributes. -/
def settings (e : SelectorEntry) (attributes : List ThemeAttribute) : List ThemeSetting :=
  match e.selectorText? with
  | none => [{ scope := ⟨rootScope⟩, attributes }, { scope := ⟨"text"⟩, attributes }]
  | some cs => (Text.splitAt ',' cs).filterMap (settingOf attributes)

/-- The selectors of an entry that are skipped. -/
def skipped (e : SelectorEntry) : List Warning :=
  match e.selectorText? with
  | none => []
  | some cs => (Text.splitAt ',' cs).filterMap fun selector =>
      if Selector.ofChars selector = .unsupported then
        some (.skippedSelector (String.ofList (Text.trim selector)))
      else none

end SelectorEntry

namespace SelectorTheme

/-- Read a theme. -/
def ofValue (v : Value) : Option SelectorTheme := do
  let fields ← Fields.ofValue false ["name", "settings"] v
  return ⟨← fields.optional 0 Value.asText,
    ← fields.required 1 (Value.asList SelectorEntry.ofValue)⟩

/-- The settings of entries, up to one with a color that is none. -/
def settings : List SelectorEntry → Except InvalidColor (List ThemeSetting)
  | [] => .ok []
  | e :: rest => do
    let attributes ← e.style.attributes
    return e.settings attributes ++ (← settings rest)

/-- The selectors of entries that are skipped, up to an entry with a color that is none. -/
def skipped : List SelectorEntry → List Warning
  | [] => []
  | e :: rest =>
    match e.style.attributes with
    | .ok _ => e.skipped ++ skipped rest
    | .error _ => []

/-- The theme that a property list stands for. -/
def toTheme (t : SelectorTheme) (fallback : String) : Except ThemeError Theme :=
  let name := t.name.getD fallback
  match settings t.entries with
  | .ok settings => Theme.ofSettings name settings
  | .error cause => .error (.invalidColor name cause)

end SelectorTheme

namespace Theme

/-- Read a theme from a property list, with a name for the case that it has none. Warnings tell
which selectors are skipped. -/
def ofPropertyList (bytes : List UInt8) (fallback : String) :
    Except ThemeError Theme × List Warning :=
  match (Data.readPropertyList bytes).bind SelectorTheme.ofValue with
  | some t => (t.toTheme fallback, SelectorTheme.skipped t.entries)
  | none => (.error .malformedPropertyList, [])

end Theme

end ScopePaint
