import ScopePaint.Style.TerminalLine
import ScopePaint.Text.Pieces

/-!
Styled text in the terms of a terminal: codes that change how text looks, and text.

Before each span the codes for its style are written, and behind it everything is reset, so that no
style reaches beyond its span. Line breaks stand between lines and have no style.
-/

set_option autoImplicit false

namespace ScopePaint

open Text (Span)

/-- What changes how the text that follows looks. -/
inductive TerminalCode where
  | foreground (c : Color)
  | background (c : Color)
  | underlineColor (c : Color)
  | bold | italic | underline | reset
  deriving DecidableEq, Repr

/-- A code, or text. -/
inductive TerminalPiece where
  | code (c : TerminalCode)
  | text (cs : List Char)
  deriving DecidableEq, Repr

namespace TerminalCode

/-- The numbers of a code for a color. -/
def colorNumbers (kind : String) (c : Color) : String :=
  Text.join ";" [kind, "2", toString c.red.toNat, toString c.green.toNat, toString c.blue.toNat]

/-- The numbers of a code. -/
def numbers : TerminalCode → String
  | foreground c => colorNumbers "38" c
  | background c => colorNumbers "48" c
  | underlineColor c => colorNumbers "58" c
  | bold => "1"
  | italic => "3"
  | underline => "4"
  | reset => "0"

end TerminalCode

namespace TerminalPiece

/-- What is sent to a terminal for a piece. -/
def render : TerminalPiece → String
  | code c => "\x1b[" ++ c.numbers ++ "m"
  | text cs => String.ofList cs

/-- The characters of a piece that show. -/
def shown : TerminalPiece → List Char
  | code _ => []
  | text cs => cs

end TerminalPiece

/-- The codes for a style. -/
def CellStyle.codes (s : CellStyle) : List TerminalCode :=
  (s.foreground.map .foreground).toList ++ (s.background.map .background).toList
    ++ (if s.bold then [.bold] else []) ++ (if s.italic then [.italic] else [])
    ++ (if s.underlined then [.underline] else [])
    ++ (s.underlineColor.map .underlineColor).toList

/-- The pieces of a span. Attributes and colors are reset one after the other. -/
def TerminalSpan.pieces (s : TerminalSpan) : List TerminalPiece :=
  s.style.codes.map .code ++ [.text s.text, .code .reset, .code .reset]

namespace StyledText

/-- The pieces of the lines of a text, the first of which begins at `start`. -/
def linePieces? (t : StyledText) (start : Nat) : List (List Char) → Option (List TerminalPiece)
  | [] => some []
  | line :: rest => do
    let stop := start + Text.byteLength line
    let own := (← t.terminalLine? ⟨start, stop⟩).spans.flatMap TerminalSpan.pieces
    match rest with
    | [] => return own
    | next :: others =>
      return own ++ .text ['\n'] :: (← t.linePieces? (stop + 1) (next :: others))

/-- The pieces of a text. -/
def terminalPieces? (t : StyledText) : Option (List TerminalPiece) :=
  t.linePieces? 0 (Text.splitAt '\n' t.text)

end StyledText

end ScopePaint
