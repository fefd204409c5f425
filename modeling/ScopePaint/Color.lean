import ScopePaint.Data.Json
import ScopePaint.Text.Pieces
import ScopePaint.Text.Quoted

/-!
Colors with four channels of eight bits.

A color is written `#RRGGBB`, with two more digits for alpha if it is not opaque; digits may be read
in either case and with white space around the whole. It may also be packed into an integer
`0xRRGGBB`, which holds no alpha.
-/

set_option autoImplicit false

namespace ScopePaint

/-- A color by its red, green, blue and alpha channels. -/
structure Color where
  red : UInt8
  green : UInt8
  blue : UInt8
  alpha : UInt8 := 255
  deriving DecidableEq, Repr

/-- A text that was read as a color and is none. -/
structure InvalidColor where
  text : String
  deriving DecidableEq, Repr

/-- What to say about a text that is no color. -/
def InvalidColor.message (e : InvalidColor) : String :=
  "invalid color " ++ Text.quoted e.text ++ ", expected #RRGGBB or #RRGGBBAA"

namespace Color

/-- Opaque black. -/
def black : Color := ⟨0, 0, 0, 255⟩

/-- Opaque white. -/
def white : Color := ⟨255, 255, 255, 255⟩

/-- The opaque color packed into an integer; its top byte is ignored. -/
def ofPacked (value : UInt32) : Color :=
  ⟨(value >>> 16).toUInt8, (value >>> 8).toUInt8, value.toUInt8, 255⟩

/-- The color packed into an integer, without its alpha. -/
def toPacked (c : Color) : UInt32 :=
  c.red.toUInt32 <<< 16 ||| c.green.toUInt32 <<< 8 ||| c.blue.toUInt32

/-- The value of a hexadecimal digit. -/
def digit? (c : Char) : Option Nat :=
  if Data.isHex c then some (Data.hexDigit c) else none

/-- The value of a channel written with two characters. The first one may be a plus sign. -/
def channel? (high low : Char) : Option UInt8 :=
  match (if high = '+' then some 0 else digit? high), digit? low with
  | some h, some l => some (.ofNat (16 * h + l))
  | _, _ => none

/-- The values of channels written one after the other. -/
def channels? : List Char → Option (List UInt8)
  | [] => some []
  | [_] => none
  | high :: low :: rest => do
    let value ← channel? high low
    let values ← channels? rest
    return value :: values

/-- Read a color. -/
def ofText (s : String) : Except InvalidColor Color :=
  match Text.trim s.toList with
  | '#' :: digits =>
    match channels? digits with
    | some [red, green, blue] => .ok ⟨red, green, blue, 255⟩
    | some [red, green, blue, alpha] => .ok ⟨red, green, blue, alpha⟩
    | _ => .error ⟨s⟩
  | _ => .error ⟨s⟩

/-- The hexadecimal digit of a number below 16. -/
def digitChar (n : Nat) : Char := (Nat.digitChar n).toUpper

/-- The two digits of a channel. -/
def channelDigits (value : UInt8) : List Char :=
  [digitChar (value.toNat / 16), digitChar (value.toNat % 16)]

/-- The text of a color without its alpha. -/
def opaqueText (c : Color) : String :=
  String.ofList ('#' :: channelDigits c.red ++ channelDigits c.green ++ channelDigits c.blue)

/-- The text of a color; alpha is written only if the color is not opaque. -/
def text (c : Color) : String :=
  if c.alpha = 255 then c.opaqueText
  else c.opaqueText ++ String.ofList (channelDigits c.alpha)

/-- Read a color out of a data tree, where it may be a text or a packed integer. -/
def ofValue : Data.Value → Option Color
  | .text s => (ofText s).toOption
  | v => (v.asNatBelow (Nat.pow 2 32)).map fun n => ofPacked (.ofNat n)

end Color

end ScopePaint
