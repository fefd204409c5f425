import ScopePaint.Style.StyledText

/-!
Theme attributes.

An attribute is one styling instruction of a theme. It styles either the text of a token or the
whole line; kinds that are not known do neither. Attributes of the same kind take each other's
place: in an `AttributeSet` the last one counts, at the place of the first.
-/

set_option autoImplicit false

namespace ScopePaint

open Number (Single)
open Text (Span)

/-- One styling instruction. -/
inductive ThemeAttribute where
  | color (color : Color)
  | backgroundColor (color : Color) (rounding : Rounding) (coloring : Coloring)
  | bold
  | italic
  | underline (color : Option Color) (style : UnderlineStyle)
  | kerning (value : Single)
  | ligature (value : UInt8)
  | headIndent (value : Single)
  | tailIndent (value : Single)
  | paragraphSpacingBefore (value : Single)
  | paragraphSpacingAfter (value : Single)
  | alignment (side : Alignment)
  | defaultTabInterval (value : Single)
  | action (link : String) (handler : Option LinkHandler)
  | unsupported
  deriving DecidableEq, Repr

/-- What an attribute styles. -/
inductive Capability where
  | token | line | unsupported
  deriving DecidableEq, Repr

namespace ThemeAttribute

/-- The kind of an attribute, which is also its name in theme files. -/
def kind : ThemeAttribute → String
  | color _ => "color"
  | backgroundColor _ _ _ => "background_color"
  | bold => "bold"
  | italic => "italic"
  | underline _ _ => "underline"
  | kerning _ => "kerning"
  | ligature _ => "ligature"
  | headIndent _ => "head_indent"
  | tailIndent _ => "tail_indent"
  | paragraphSpacingBefore _ => "paragraph_spacing_before"
  | paragraphSpacingAfter _ => "paragraph_spacing_after"
  | alignment _ => "alignment"
  | defaultTabInterval _ => "default_tab_interval"
  | action _ _ => "action"
  | unsupported => "unsupported"

/-- What an attribute styles. -/
def capability : ThemeAttribute → Capability
  | color _ | backgroundColor _ _ _ | bold | italic | underline _ _ | kerning _ | ligature _
  | action _ _ => .token
  | headIndent _ | tailIndent _ | paragraphSpacingBefore _ | paragraphSpacingAfter _
  | alignment _ | defaultTabInterval _ => .line
  | unsupported => .unsupported

/-- The pieces of styling that an attribute puts on a token, in the order of writing. -/
def values : ThemeAttribute → List StyleValue
  | color c => [.foreground c]
  | backgroundColor c .none _ => [.background c]
  | backgroundColor c rounding coloring => [.roundedBackground ⟨c, rounding, coloring⟩]
  | bold => [.bold]
  | italic => [.italic]
  | underline c style =>
    .underlineStyle style :: (match c with
      | some c => [.underlineColor c]
      | none => [])
  | kerning value => [.kerning value]
  | ligature value => [.ligature value]
  | action link handler =>
    .link link :: (match handler with
      | some handler => [.linkHandler handler]
      | none => [])
  | _ => []

/-- Style the text of a token. -/
def applyToRange (a : ThemeAttribute) (t : StyledText) (r : Span) : StyledText :=
  a.values.foldl (fun t v => t.set r v) t

/-- Style a line. -/
def applyToParagraph (a : ThemeAttribute) (p : ParagraphStyle) : ParagraphStyle :=
  match a with
  | headIndent value => { p with headIndent := value }
  | tailIndent value => { p with tailIndent := value }
  | paragraphSpacingBefore value => { p with spacingBefore := value }
  | paragraphSpacingAfter value => { p with spacingAfter := value }
  | alignment side => { p with alignment := side }
  | defaultTabInterval value => { p with tabInterval := value }
  | _ => p

/-- Equality of attributes, with numbers compared as numbers. -/
def eqv : ThemeAttribute → ThemeAttribute → Bool
  | kerning x, kerning y | headIndent x, headIndent y | tailIndent x, tailIndent y
  | paragraphSpacingBefore x, paragraphSpacingBefore y
  | paragraphSpacingAfter x, paragraphSpacingAfter y
  | defaultTabInterval x, defaultTabInterval y => x.eqv y
  | a, b => a == b

end ThemeAttribute

/-- Attributes of which no two are of the same kind. -/
structure AttributeSet where
  items : List ThemeAttribute := []
  deriving DecidableEq, Repr

namespace AttributeSet

/-- The set without attributes. -/
def empty : AttributeSet := {}

/-- Put an attribute in the place of the first one of its kind, or at the end. -/
def place (a : ThemeAttribute) : List ThemeAttribute → List ThemeAttribute
  | [] => [a]
  | b :: rest => if b.kind = a.kind then a :: rest else b :: place a rest

/-- Add an attribute. -/
def merge (s : AttributeSet) (a : ThemeAttribute) : AttributeSet := ⟨place a s.items⟩

/-- Add attributes one after the other. -/
def mergeAll (s : AttributeSet) (attributes : List ThemeAttribute) : AttributeSet :=
  attributes.foldl merge s

/-- The set of some attributes. -/
def ofList (attributes : List ThemeAttribute) : AttributeSet := empty.mergeAll attributes

/-- The attribute of a kind. -/
def get? (s : AttributeSet) (kind : String) : Option ThemeAttribute :=
  s.items.find? fun a => a.kind = kind

end AttributeSet

end ScopePaint
