import ScopePaint.Color

/-!
What can be set on a stretch of text.

A `StyleValue` is one piece of styling, such as a foreground color; its `StyleKey` tells which other
values it takes the place of. Keys are ordered as they are listed.
-/

set_option autoImplicit false

namespace ScopePaint

open Number (Single)

/-- How far the corners of a background are rounded. -/
inductive Rounding where
  | none | full | half | quarter
  deriving DecidableEq, Repr

/-- Whether a background covers the whole line or only the text. -/
inductive Coloring where
  | line | text
  deriving DecidableEq, Repr

/-- How an underline is drawn. -/
inductive UnderlineStyle where
  | single | thick | double | dotted | dashed
  deriving DecidableEq, Repr

/-- To which side the lines of a paragraph are aligned. -/
inductive Alignment where
  | natural | left | right | center | justified
  deriving DecidableEq, Repr

/-- All roundings. -/
def Rounding.all : List Rounding := [none, full, half, quarter]

/-- The word for a rounding in files. -/
def Rounding.word : Rounding → String
  | none => "none"
  | full => "full"
  | half => "half"
  | quarter => "quarter"

/-- All ways to cover with a background. -/
def Coloring.all : List Coloring := [line, text]

/-- The word for what a background covers in files. -/
def Coloring.word : Coloring → String
  | line => "line"
  | text => "text"

/-- All underlines. -/
def UnderlineStyle.all : List UnderlineStyle := [single, thick, double, dotted, dashed]

/-- The word for an underline in files. -/
def UnderlineStyle.word : UnderlineStyle → String
  | single => "single"
  | thick => "thick"
  | double => "double"
  | dotted => "dotted"
  | dashed => "dashed"

/-- All alignments. -/
def Alignment.all : List Alignment := [natural, left, right, center, justified]

/-- The word for an alignment in files. -/
def Alignment.word : Alignment → String
  | natural => "natural"
  | left => "left"
  | right => "right"
  | center => "center"
  | justified => "justified"

/-- A background with rounded corners. -/
structure RoundedBackground where
  color : Color
  rounding : Rounding
  coloring : Coloring
  deriving DecidableEq, Repr

/-- The styling that the lines of a paragraph share. -/
structure ParagraphStyle where
  alignment : Alignment := .natural
  headIndent : Single := .zero
  tailIndent : Single := .zero
  spacingBefore : Single := .zero
  spacingAfter : Single := .zero
  tabInterval : Single := .zero
  deriving DecidableEq, Repr

/-- What is called when a link is followed; handlers are told apart by their numbers. -/
structure LinkHandler where
  number : Nat
  deriving DecidableEq, Repr

/-- The kinds of styling. -/
inductive StyleKey where
  | foreground | background | roundedBackground | bold | italic | underlineStyle
  | underlineColor | kerning | ligature | link | linkHandler | paragraphStyle
  deriving DecidableEq, Repr

/-- All kinds of styling in their order. -/
def StyleKey.all : List StyleKey :=
  [foreground, background, roundedBackground, bold, italic, underlineStyle, underlineColor,
    kerning, ligature, link, linkHandler, paragraphStyle]

/-- One piece of styling. -/
inductive StyleValue where
  | foreground (color : Color)
  | background (color : Color)
  | roundedBackground (background : RoundedBackground)
  | bold
  | italic
  | underlineStyle (style : UnderlineStyle)
  | underlineColor (color : Color)
  | kerning (amount : Single)
  | ligature (level : UInt8)
  | link (target : String)
  | linkHandler (handler : LinkHandler)
  | paragraphStyle (style : ParagraphStyle)
  deriving DecidableEq, Repr

/-- The kind of a piece of styling. -/
def StyleValue.key : StyleValue → StyleKey
  | foreground _ => .foreground
  | background _ => .background
  | roundedBackground _ => .roundedBackground
  | bold => .bold
  | italic => .italic
  | underlineStyle _ => .underlineStyle
  | underlineColor _ => .underlineColor
  | kerning _ => .kerning
  | ligature _ => .ligature
  | link _ => .link
  | linkHandler _ => .linkHandler
  | paragraphStyle _ => .paragraphStyle

end ScopePaint
