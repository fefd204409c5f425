import ScopePaint.Data.Markup
import ScopePaint.Data.PropertyList.Part
import ScopePaint.Data.Timestamp

/-!
Values without parts in property lists: texts, numbers, points in time, and bytes in base 64.

Bytes and points in time can be read as texts. Of numbers it only counts that they are numbers.
-/

set_option autoImplicit false

namespace ScopePaint.Data.PropertyList

/-- The value of a digit of base 64. -/
def digit64? (c : Char) : Option Nat :=
  if 'A' ≤ c ∧ c ≤ 'Z' then some (c.toNat - 'A'.toNat)
  else if 'a' ≤ c ∧ c ≤ 'z' then some (c.toNat - 'a'.toNat + 26)
  else if '0' ≤ c ∧ c ≤ '9' then some (c.toNat - '0'.toNat + 52)
  else if c = '+' then some 62
  else if c = '/' then some 63
  else none

/-- The bytes that are written in base 64, in groups of four digits; only the last group may be
shorter, and is filled up. -/
def bytesOf64 : List Char → Option (List UInt8)
  | [] => some []
  | [a, b, '=', '='] => do
    let a ← digit64? a
    let b ← digit64? b
    if b % 16 = 0 then some [.ofNat (a * 4 + b / 16)] else none
  | [a, b, c, '='] => do
    let a ← digit64? a
    let b ← digit64? b
    let c ← digit64? c
    if c % 4 = 0 then some [.ofNat (a * 4 + b / 16), .ofNat (b % 16 * 16 + c / 4)] else none
  | a :: b :: c :: d :: rest => do
    let a ← digit64? a
    let b ← digit64? b
    let c ← digit64? c
    let d ← digit64? d
    let bytes ← bytesOf64 rest
    return .ofNat (a * 4 + b / 16) :: .ofNat (b % 16 * 16 + c / 4) :: .ofNat (c % 4 * 64 + d)
      :: bytes
  | _ => none

/-- Whether a text is an integer of 64 bits: hexadecimal behind `0x`, or decimal with a sign. -/
def isInteger (cs : List Char) : Bool :=
  let within := fun (base bound : Nat) (digits : List Char) =>
    (Markup.digitsValue base digits).any fun n => n < bound
  match cs with
  | '0' :: 'x' :: '+' :: digits => within 16 (Nat.pow 2 64) digits
  | '0' :: 'x' :: digits => within 16 (Nat.pow 2 64) digits
  | '-' :: digits => within 10 (Nat.pow 2 63 + 1) digits
  | '+' :: digits => within 10 (Nat.pow 2 64) digits
  | digits => within 10 (Nat.pow 2 64) digits

/-- Whether a text is a number: digits with an optional sign, point and exponent, or the name of
infinity or of what is no number. -/
def isReal (cs : List Char) : Bool :=
  let unsigned := match cs with
    | '+' :: rest | '-' :: rest => rest
    | _ => cs
  let lower := String.ofList (unsigned.map Char.toLower)
  if lower = "inf" ∨ lower = "infinity" ∨ lower = "nan" then true
  else
    let whole := unsigned.takeWhile Char.isDigit
    let rest := unsigned.drop whole.length
    let (fraction, rest) := match rest with
      | '.' :: rest => (rest.takeWhile Char.isDigit, rest.dropWhile Char.isDigit)
      | _ => ([], rest)
    let exponentFits := match rest with
      | [] => true
      | e :: rest =>
        let digits := match rest with
          | '+' :: rest | '-' :: rest => rest
          | _ => rest
        (e == 'e' || e == 'E') && !digits.isEmpty && digits.all Char.isDigit
    (!whole.isEmpty || !fraction.isEmpty) && exponentFits

/-- Read the value of an element without parts. -/
def readLeaf (name : String) (content : List Char) : Option Value :=
  match name with
  | "key" | "string" => some (.text (String.ofList content))
  | "data" =>
    (bytesOf64 (content.filter fun c => !(Markup.isBlank c || c == '\x0c'))).map bytesValue
  | "date" => (Timestamp.normalize content).map Value.text
  | "integer" => if isInteger content then some (.integer 0) else none
  | "real" => if isReal content then some (.real (.finite false ⟨0, 0⟩)) else none
  | _ => none

end ScopePaint.Data.PropertyList
