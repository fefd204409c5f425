import ScopePaint.Data.PropertyList.Leaf
import ScopePaint.Data.PropertyList.Part

/-!
Property lists in plain text.

Braces are around dictionaries and parentheses around lists, but either closes the other. Commas,
semicolons and equals signs separate no more than blanks do. A text stands between quotes or, if it
has no blanks and separators in it, by itself; by itself it may also be an integer.
-/

set_option autoImplicit false

namespace ScopePaint.Data.PropertyList.Plain

/-- Whether a byte is the one of an ASCII character. -/
def isByte (c : Char) (b : UInt8) : Bool := b.toNat == c.toNat

/-- Whether a byte only separates. -/
def isSeparator (b : UInt8) : Bool :=
  [' ', '\r', '\t', '\n', ',', ';', '='].any fun c => isByte c b

/-- Whether a byte ends a text without quotes. -/
def endsWord (b : UInt8) : Bool := [' ', ')', '\r', '\t', ';', ','].any fun c => isByte c b

/-- The value of a text without quotes. -/
def wordValue? (bytes : List UInt8) : Option Value :=
  (textOfBytes bytes).map fun s => if isInteger s.toList then .integer 0 else .text s

/-- The characters for the upper half of all bytes in octal escapes. -/
def upperHalf : List Char :=
  ("\u00A0ÀÁÂÃÄÅÇÈÉÊËÌÍÎÏÐÑÒÓÔÕÖÙÚÛÜÝÞµ×÷©¡¢£⁄¥ƒ§¤’“«‹›ﬁﬂ®–†‡·¦¶•‚„”»…‰¬¿¹ˋ´ˆ˜¯˘˙¨²˚¸³˝˛ˇ"
    ++ "—±¼½¾àáâãäåçèéêëìÆíªîïðñŁØŒºòóôõöæùúûıüýłøœßþÿ\uFFFD\uFFFD").toList

/-- The character of an octal escape. -/
def octalChar (n : Nat) : Char :=
  let n := n % 256
  if n < 128 then Char.ofNat n else upperHalf.getD (n - 128) '\uFFFD'

/-- The value of an octal digit. -/
def octalDigit? (b : UInt8) : Option Nat :=
  if '0'.toNat ≤ b.toNat ∧ b.toNat ≤ '7'.toNat then some (b.toNat - '0'.toNat) else none

/-- Read up to two more octal digits. -/
def readOctal : Nat → Nat → List UInt8 → Nat × List UInt8
  | more + 1, n, b :: rest =>
    match octalDigit? b with
    | some d => readOctal more (n * 8 + d) rest
    | none => (n, b :: rest)
  | _, n, rest => (n, rest)

/-- Read a unit of 16 bits in four hexadecimal digits. -/
def readUnit : List UInt8 → Option (Nat × List UInt8)
  | a :: b :: c :: d :: rest => do
    let digits := [a, b, c, d].map fun byte => Char.ofNat byte.toNat
    return (← Markup.digitsValue 16 digits, rest)
  | _ => none

/-- Read a character in one unit of 16 bits or, behind another mark, in two. -/
def readUnits (bytes : List UInt8) : Option (Char × List UInt8) := do
  let (high, rest) ← readUnit bytes
  if high < 0xD800 ∨ 0xE000 ≤ high then return (Char.ofNat high, rest)
  else
    match rest with
    | slash :: mark :: rest =>
      let (low, rest) ← readUnit rest
      if isByte '\\' slash ∧ isByte 'U' mark ∧ high < 0xDC00 ∧ 0xDC00 ≤ low ∧ low < 0xE000 then
        return (Char.ofNat (0x10000 + (high - 0xD800) * 0x400 + (low - 0xDC00)), rest)
      else none
    | _ => none

/-- The bytes of a character. -/
def charBytes (c : Char) : List UInt8 := (String.singleton c).toUTF8.toList

/-- The bytes that an escape with a single letter stands for. -/
def letterBytes (b : UInt8) : List UInt8 :=
  match Char.ofNat b.toNat with
  | 'a' => [7]
  | 'b' => [8]
  | 'f' => [12]
  | 'n' => [10]
  | 'r' => [13]
  | 't' => [9]
  | 'v' => [11]
  | _ => [b]

/-- Read an escape behind its backslash. -/
def readEscape : List UInt8 → Option (List UInt8 × List UInt8)
  | [] => none
  | b :: rest =>
    match octalDigit? b with
    | some d =>
      let (n, rest) := readOctal 2 d rest
      some (charBytes (octalChar n), rest)
    | none =>
      if isByte 'U' b then (readUnits rest).map fun result => (charBytes result.1, result.2)
      else some (letterBytes b, rest)

/-- Read a text up to its quote. -/
def readQuoted (quote : UInt8) : Nat → List UInt8 → Option (List UInt8 × List UInt8)
  | 0, _ | _, [] => none
  | fuel + 1, b :: rest =>
    if b = quote then some ([], rest)
    else do
      let (own, rest) ← if isByte '\\' b then readEscape rest else some ([b], rest)
      let (content, rest) ← readQuoted quote fuel rest
      return (own ++ content, rest)

/-- The text behind a comment that ends with a star and a slash. -/
def skipComment : List UInt8 → Option (List UInt8)
  | [] => none
  | [b] => if isByte '*' b then some [] else none
  | b :: c :: rest => if isByte '*' b ∧ isByte '/' c then some rest else skipComment (c :: rest)

/-- The parts of a property list, up to where it is malformed. -/
def parts : Nat → List UInt8 → List Part
  | 0, _ | _, [] => []
  | fuel + 1, b :: rest =>
    let word := fun (_ : Unit) =>
      let more := rest.takeWhile fun c => !endsWord c
      match wordValue? (b :: more) with
      | some v => .value v :: parts fuel (rest.drop more.length)
      | none => []
    if isSeparator b then parts fuel rest
    else
      match Char.ofNat b.toNat with
      | '(' => .list :: parts fuel rest
      | '{' => .dictionary :: parts fuel rest
      | ')' | '}' => .done :: parts fuel rest
      | '"' | '\'' =>
        match readQuoted b (rest.length + 1) rest with
        | some (content, rest) =>
          match textOfBytes content with
          | some s => .value (.text s) :: parts fuel rest
          | none => []
        | none => []
      | '/' =>
        match rest with
        | [] => []
        | c :: _ =>
          if isByte '/' c then parts fuel (rest.dropWhile fun c => !isByte '\n' c)
          else if isByte '*' c then
            match skipComment rest with
            | some rest => parts fuel rest
            | none => []
          else word ()
      | _ => word ()

end ScopePaint.Data.PropertyList.Plain

namespace ScopePaint.Data.PropertyList

/-- Read a property list in plain text. -/
def readPlain (bytes : List UInt8) : Option Value :=
  ofParts (Plain.parts (bytes.length + 1) bytes)

end ScopePaint.Data.PropertyList
