import ScopePaint.Style.StyledText

/-!
Styled text as a terminal shows it.

A terminal has colors without alpha, three modifiers and an alignment for each line. Rounded
backgrounds become plain ones, unless there is a plain one already; all else is dropped.
-/

set_option autoImplicit false

namespace ScopePaint

open Text (Span)

/-- What a terminal can show of a run's styling. -/
structure CellStyle where
  foreground : Option Color := none
  background : Option Color := none
  underlineColor : Option Color := none
  bold : Bool := false
  italic : Bool := false
  underlined : Bool := false
  deriving DecidableEq, Repr

/-- Where a terminal puts a line; without a word it goes where lines go by default. -/
inductive LineAlignment where
  | left | center | right
  deriving DecidableEq, Repr

/-- A piece of a line with its styling. -/
structure TerminalSpan where
  text : List Char
  style : CellStyle
  deriving DecidableEq, Repr

/-- A line for a terminal. -/
structure TerminalLine where
  alignment : Option LineAlignment
  spans : List TerminalSpan
  deriving DecidableEq, Repr

/-- A color without its alpha. -/
def Color.opaqueOf (c : Color) : Color := { c with alpha := 255 }

namespace CellStyle

/-- Add one piece of styling. A plain background is written before a rounded one is met. -/
def add (style : CellStyle) (hasBackground : Bool) : StyleValue → CellStyle
  | .foreground c => { style with foreground := some c.opaqueOf }
  | .background c => { style with background := some c.opaqueOf }
  | .roundedBackground b =>
    if hasBackground then style else { style with background := some b.color.opaqueOf }
  | .bold => { style with bold := true }
  | .italic => { style with italic := true }
  | .underlineStyle _ => { style with underlined := true }
  | .underlineColor c => { style with underlineColor := some c.opaqueOf }
  | _ => style

/-- Whether a piece of styling is a plain background. -/
def isBackground : StyleValue → Bool
  | .background _ => true
  | _ => false

/-- What a terminal can show of the styling of a run. -/
def ofValues (values : List StyleValue) : CellStyle :=
  (values.foldl (fun acc v => (acc.1.add acc.2 v, acc.2 || isBackground v)) ({}, false)).1

end CellStyle

/-- Where a terminal puts the lines of a paragraph. -/
def LineAlignment.ofAlignment? : Alignment → Option LineAlignment
  | .center => some center
  | .right => some right
  | .left => some left
  | .natural | .justified => none

/-- The line for a range of a text. -/
def StyledText.terminalLine? (t : StyledText) (r : Span) : Option TerminalLine :=
  (t.runs? r).map fun runs =>
    ⟨LineAlignment.ofAlignment? (((t.paragraphAt? r.start).map (·.alignment)).getD .natural),
      runs.map fun run => ⟨run.text, .ofValues run.values⟩⟩

end ScopePaint
