import ScopePaint.Theme.Theme

/-!
Themes in JSON.

A theme is a record of a name and settings. An attribute is a record whose field `type` is the kind
of the attribute, or a list that begins with it; a kind that is not known is no error. Writing a
theme leaves out what is empty, except for the attributes that always apply.
-/

set_option autoImplicit false

namespace ScopePaint

open Data (Value Fields Json)

/-- Find the member of a list that has a word. -/
def findWord {α : Type} (all : List α) (word : α → String) (w : String) : Option α :=
  all.find? fun a => word a = w

/-- Read one of several words; a record that gives it nothing as its only field will do. -/
def readWord {α : Type} (all : List α) (word : α → String) : Value → Option α
  | .text s => findWord all word s
  | .record [(name, .null)] | .record [(name, .record [])] => findWord all word name
  | _ => none

namespace ThemeAttribute

/-- Read an attribute of a kind; `fieldsOf` gives its fields with the names asked for. -/
def ofFields (kind : String) (fieldsOf : List String → Option Fields) : Option ThemeAttribute :=
  let number := fun (make : Number.Single → ThemeAttribute) => do
    return make (← (← fieldsOf ["value"]).required 0 Value.asSingle)
  let plain := fun (a : ThemeAttribute) => (fieldsOf []).map fun _ => a
  match kind with
  | "color" => do return color (← (← fieldsOf ["color"]).required 0 Color.ofValue)
  | "background_color" => do
    let fields ← fieldsOf ["color", "rounding", "coloring"]
    let c ← fields.required 0 Color.ofValue
    let rounding ← fields.defaulted 1 (readWord Rounding.all Rounding.word) .none
    let coloring ← fields.defaulted 2 (readWord Coloring.all Coloring.word) .text
    return backgroundColor c rounding coloring
  | "bold" => plain bold
  | "italic" => plain italic
  | "underline" => do
    let fields ← fieldsOf ["color", "style"]
    let c ← fields.defaulted 0 (Value.asOption Color.ofValue) none
    let style ← fields.defaulted 1 (readWord UnderlineStyle.all UnderlineStyle.word) .single
    return underline c style
  | "kerning" => number kerning
  | "ligature" => do
    let level ← (← fieldsOf ["value"]).required 0 (Value.asNatBelow (Nat.pow 2 8))
    return ligature (.ofNat level)
  | "head_indent" => number headIndent
  | "tail_indent" => number tailIndent
  | "paragraph_spacing_before" => number paragraphSpacingBefore
  | "paragraph_spacing_after" => number paragraphSpacingAfter
  | "alignment" => do
    let fields ← fieldsOf ["alignment"]
    return alignment (← fields.required 0 (readWord Alignment.all Alignment.word))
  | "default_tab_interval" => number defaultTabInterval
  | "action" => do return action (← (← fieldsOf ["link"]).required 0 Value.asText) none
  | _ => plain unsupported

/-- Read an attribute. -/
def ofValue : Value → Option ThemeAttribute
  | .record fields => do
    let kind ← (← (← Fields.find fields "type")).asText
    let others := fields.filter fun field => field.1 ≠ "type"
    if Value.fieldsSound others then
      ofFields kind fun names => Fields.ofValue true names (.record others)
    else none
  | .list (kind :: items) => do
    let kind ← kind.asText
    if Value.allSound items then
      ofFields kind fun names => Fields.ofValue true names (.list items)
    else none
  | _ => none

/-- The fields that are written behind the kind of an attribute. -/
def fields : ThemeAttribute → List (String × Json)
  | color c => [("color", .text c.text)]
  | backgroundColor c rounding coloring =>
    [("color", .text c.text), ("rounding", .text rounding.word), ("coloring", .text coloring.word)]
  | underline c style =>
    (match c with
      | some c => [("color", .text c.text)]
      | none => []) ++ [("style", .text style.word)]
  | kerning value | headIndent value | tailIndent value | paragraphSpacingBefore value
  | paragraphSpacingAfter value | defaultTabInterval value => [("value", .single value)]
  | ligature level => [("value", .nat level.toNat)]
  | alignment side => [("alignment", .text side.word)]
  | action link _ => [("link", .text link)]
  | bold | italic | unsupported => []

/-- An attribute as it is written. -/
def toJson (a : ThemeAttribute) : Json := .record (("type", .text a.kind) :: a.fields)

end ThemeAttribute

namespace ThemeSetting

/-- Read a setting. -/
def ofValue (v : Value) : Option ThemeSetting := do
  let fields ← Fields.ofValue true
    ["scope", "parent_scopes", "attributes", "in_selection_attributes",
      "out_selection_attributes"] v
  let scope ← fields.required 0 Value.asText
  let parents ← fields.defaulted 1 (Value.asList Value.asText) []
  let attributes ← fields.defaulted 2 (Value.asList ThemeAttribute.ofValue) []
  let inSelection ← fields.defaulted 3 (Value.asList ThemeAttribute.ofValue) []
  let outOfSelection ← fields.defaulted 4 (Value.asList ThemeAttribute.ofValue) []
  return ⟨⟨scope⟩, parents.map ScopeName.mk, attributes, inSelection, outOfSelection⟩

/-- A field with a list, left out if the list is empty. -/
def listField (name : String) (items : List Json) : List (String × Json) :=
  if items.isEmpty then [] else [(name, .list items)]

/-- A setting as it is written. -/
def toJson (s : ThemeSetting) : Json :=
  .record (("scope", .text s.scope.text)
    :: listField "parent_scopes" (s.parents.map fun scope => .text scope.text)
    ++ ("attributes", .list (s.attributes.map ThemeAttribute.toJson))
    :: listField "in_selection_attributes" (s.inSelection.map ThemeAttribute.toJson)
    ++ listField "out_selection_attributes" (s.outOfSelection.map ThemeAttribute.toJson))

end ThemeSetting

namespace Theme

/-- Read a theme out of a data tree. -/
def ofValue (v : Value) : Except ThemeError Theme :=
  let parts := do
    let fields ← Fields.ofValue true ["name", "settings"] v
    let name ← fields.required 0 Value.asText
    let settings ← fields.required 1 (Value.asList ThemeSetting.ofValue)
    return (name, settings)
  match parts with
  | some (name, settings) => ofSettings name settings
  | none => .error .malformedJson

/-- Read a theme in JSON. -/
def ofJson (text : String) : Except ThemeError Theme :=
  match Data.readJson text with
  | some v => ofValue v
  | none => .error .malformedJson

/-- A theme as it is written. -/
def toJson (t : Theme) : Json :=
  .record [("name", .text t.name), ("settings", .list (t.settings.map ThemeSetting.toJson))]

/-- The text of a theme in JSON. -/
def jsonText (t : Theme) : String := t.toJson.pretty

end Theme

end ScopePaint
