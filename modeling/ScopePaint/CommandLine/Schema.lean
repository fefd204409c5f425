import ScopePaint.CommandLine.Highlight

/-!
Schemas for the files that people write: configurations and themes.

A schema describes what a file may hold, in the language of JSON Schema. The words and the defaults
in it are those that reading uses.
-/

set_option autoImplicit false

namespace ScopePaint.CommandLine

open Data (Json)

namespace Schema

/-- The language that schemas are written in. -/
def dialect : String :=
  Text.join "/" ["https:", "", "json-schema.org", "draft", "2020-12", "schema"]

/-- A schema for values of a type, with what else is known about them. -/
def ofType (type : String) (more : List (String × Json)) : Json :=
  .record (("type", .text type) :: more)

/-- A schema with a description. -/
def described (text : String) : Json → Json
  | .record fields => .record (("description", .text text) :: fields)
  | schema => schema

/-- A schema with a default value. -/
def withDefault (value : Json) : Json → Json
  | .record fields => .record (fields ++ [("default", value)])
  | schema => schema

/-- A reference to a schema that is defined elsewhere. -/
def reference (name : String) : Json := .record [("$ref", .text ("#/$defs/" ++ name))]

/-- A schema for texts. -/
def text : Json := ofType "string" []

/-- A schema for a single word. -/
def word (w : String) : Json := ofType "string" [("const", .text w)]

/-- A schema for one of several words. -/
def oneWord (words : List String) : Json := ofType "string" [("enum", .list (words.map .text))]

/-- A schema for lists. -/
def listOf (items : Json) : Json := ofType "array" [("items", items)]

/-- A schema for numbers of single precision. -/
def number : Json := ofType "number" [("format", .text "float")]

/-- The fields of a record, and which of them have to be there. -/
def recordFields (properties : List (String × Json)) (required : List String) :
    List (String × Json) :=
  [("type", .text "object"), ("properties", .record properties)]
    ++ if required.isEmpty then [] else [("required", .list (required.map .text))]

/-- The schema of a file: what it holds, and the schemas that are referred to. -/
def ofFile (title : String) (description : Option String)
    (fields definitions : List (String × Json)) : Json :=
  .record ([("$schema", .text dialect), ("title", .text title)]
    ++ (description.map fun s => ("description", Json.text s)).toList
    ++ fields ++ [("$defs", .record definitions)])

/-- The schema of configurations. -/
def configuration : Json :=
  let defaults : Configuration := {}
  let directories := fun (list : List String) =>
    withDefault (.list (list.map .text)) (listOf text)
  ofFile "ThemingConfig" none
    (recordFields
      [("theme", described
          "Theme name (looked up in \x60theme_dirs\x60, then built-ins) or a theme file path"
          (withDefault (.text defaults.theme) text)),
        ("theme_dirs", described
          "Directories searched for \x60.json\x60 and \x60.tmTheme\x60 themes"
          (directories defaults.themeDirectories)),
        ("grammar_dirs", described "Directories searched for grammar files"
          (directories defaults.grammarDirectories)),
        ("missing_pattern",
          withDefault (.text defaults.missing.word) (reference "MissingPatternPolicy")),
        ("max_line_length", described "Lines longer than this many bytes are not tokenized"
          (withDefault (.nat defaults.maxLineLength)
            (ofType "integer" [("format", .text "uint"), ("minimum", .nat 0)]))),
        ("log_filter", described "\x60tracing\x60 filter used when \x60RUST_LOG\x60 is unset"
          (withDefault (.text defaults.logFilter) text))]
      [])
    [("MissingPatternPolicy", described
      "Handling of includes that name a missing repository entry or grammar"
      (.record [("oneOf", .list [
        described "Log a warning and treat the include as matching nothing"
          (word MissingPolicy.warn.word),
        described "Fail rule resolution" (word MissingPolicy.error.word)])]))]

/-- The schema of attributes of a kind. -/
def attributeOf (kind : String) (properties : List (String × Json)) (required : List String) :
    Json :=
  .record (recordFields (("type", word kind) :: properties) ("type" :: required))

/-- The schema of attributes with a number. -/
def numberAttribute (kind : String) : Json := attributeOf kind [("value", number)] ["value"]

/-- The schema of attributes. -/
def attributes : Json :=
  let color := reference "Color"
  .record [("oneOf", .list [
    attributeOf "color" [("color", color)] ["color"],
    attributeOf "background_color"
      [("color", color),
        ("rounding", withDefault (.text Rounding.none.word) (reference "RoundingStyle")),
        ("coloring", withDefault (.text Coloring.text.word) (reference "ColoringStyle"))]
      ["color"],
    attributeOf "bold" [] [],
    attributeOf "italic" [] [],
    attributeOf "underline"
      [("color", .record [("anyOf", .list [color, ofType "null" []])]),
        ("style", withDefault (.text UnderlineStyle.single.word) (reference "UnderlineStyle"))]
      [],
    numberAttribute "kerning",
    attributeOf "ligature"
      [("value", ofType "integer"
        [("format", .text "uint8"), ("minimum", .nat 0), ("maximum", .nat 255)])]
      ["value"],
    numberAttribute "head_indent",
    numberAttribute "tail_indent",
    numberAttribute "paragraph_spacing_before",
    numberAttribute "paragraph_spacing_after",
    attributeOf "alignment" [("alignment", reference "TextAlignment")] ["alignment"],
    numberAttribute "default_tab_interval",
    attributeOf "action" [("link", text)] ["link"],
    described "An attribute kind this crate does not implement" (attributeOf "unsupported" [] [])])]

/-- The schema of settings. -/
def setting : Json :=
  let scope := reference "ScopeName"
  let list := listOf (reference "ThemeAttribute")
  described "One rule of a theme" (.record (recordFields
    [("scope", described "Scope selector; matches this scope and every descendant" scope),
      ("parent_scopes", described "Scopes that must also be active in an enclosing context"
        (listOf scope)),
      ("attributes", described "Unconditional styling" (withDefault (.list []) list)),
      ("in_selection_attributes", described
        "Overlay applied when the text is inside the selection scope" list),
      ("out_selection_attributes", described
        "Overlay applied when the text is outside the selection scope" list)]
    ["scope"]))

/-- The schema of themes. -/
def theme : Json :=
  ofFile "ThemeFile" (some "Native on-disk theme format")
    (recordFields [("name", text), ("settings", listOf (reference "ThemeSetting"))]
      ["name", "settings"])
    [("ThemeSetting", setting),
      ("ScopeName", described "Dot-separated TextMate scope, e.g. \x60comment.line.double-slash\x60"
        text),
      ("ThemeAttribute", attributes),
      ("Color", ofType "string"
        [("pattern", .text "^#([0-9a-fA-F]\x7b6\x7d|[0-9a-fA-F]\x7b8\x7d)$")]),
      ("RoundingStyle", described "How a rounded background rectangle is cornered"
        (oneWord (Rounding.all.map Rounding.word))),
      ("ColoringStyle", described
        "Whether a background covers the whole line or only the text glyphs"
        (oneWord (Coloring.all.map Coloring.word))),
      ("UnderlineStyle", oneWord (UnderlineStyle.all.map UnderlineStyle.word)),
      ("TextAlignment", oneWord (Alignment.all.map Alignment.word))]

end Schema

/-- Print the schema of configurations or of themes; without an argument it is the former. -/
def printSchema (arguments : List String) : Outcome :=
  match arguments.headD "config" with
  | "config" => { output := Schema.configuration.pretty ++ "\n" }
  | "theme" => { output := Schema.theme.pretty ++ "\n" }
  | _ => { exitCode := 2 }

end ScopePaint.CommandLine
