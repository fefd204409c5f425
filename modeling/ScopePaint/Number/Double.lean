import ScopePaint.Number.Rounding

/-!
Double precision numbers, as far as files hold them.

A decimal text becomes a double in two steps: its digits are taken as an integer, of which those
beyond 64 bits do not count, and that integer, rounded to a double, is multiplied or divided by a
power of ten.
-/

set_option autoImplicit false

namespace ScopePaint.Number

/-- A double: a signed magnitude, an infinity, or no number. -/
inductive Double where
  | finite (negative : Bool) (magnitude : Dyadic)
  | infinite (negative : Bool)
  | notANumber
  deriving DecidableEq, Repr

/-- The parts of a decimal number: sign, digits before and behind the point, and the sign and the
digits of the exponent. -/
structure Decimal where
  negative : Bool
  whole : List Char
  fraction : List Char
  exponentNegative : Bool
  exponent : List Char
  deriving DecidableEq, Repr

/-- The value of decimal digits. -/
def digitsValue (digits : List Char) : Nat :=
  digits.foldl (fun value c => value * 10 + (c.toNat - '0'.toNat)) 0

/-- Take in digits as long as the value stays below `2 ^ 64`. The result is the value and how many
digits were left over. -/
def takeDigits : List Char → Nat → Nat × Nat
  | [], value => (value, 0)
  | c :: rest, value =>
    let more := value * 10 + (c.toNat - '0'.toNat)
    if more < Nat.pow 2 64 then takeDigits rest more else (value, rest.length + 1)

/-- Scale a magnitude by a power of ten: doubles of up to `10 ^ 308` are multiplied or divided by in
turn. The result is `none` if the number gets too large. -/
def scaleByTen : Nat → Dyadic → Int → Option Dyadic
  | 0, value, _ => some value
  | fuel + 1, value, exponent =>
    let power := fun (k : Nat) => Format.double.round (Nat.pow 10 k) 1
    match exponent with
    | .ofNat e =>
      if e ≤ 308 then (power e).bind fun p => value.mul .double p
      else if value.mantissa = 0 then some value else none
    | .negSucc e =>
      if e + 1 ≤ 308 then (power (e + 1)).bind fun p => value.div .double p
      else if value.mantissa = 0 then some value
      else (power 308).bind fun p => (value.div .double p).bind fun value =>
        scaleByTen fuel value (exponent + 308)

namespace Decimal

/-- The double of a decimal number; `none` if it is too large. -/
def toDouble? (d : Decimal) : Option Double :=
  let (whole, skipped) := takeDigits d.whole 0
  let (significand, unread) :=
    if skipped = 0 then takeDigits d.fraction whole else (whole, d.fraction.length)
  let read : Int := (d.fraction.length - unread : Nat)
  let exponent : Int := digitsValue (d.exponent.take 10)
  let signed := if d.exponentNegative then -exponent else exponent
  let value := if 10 < (d.exponent.dropWhile (· == '0')).length then
      if significand = 0 ∨ d.exponentNegative then some ⟨0, Format.double.least⟩ else none
    else (Format.double.round significand 1).bind fun value =>
      scaleByTen 40 value ((skipped : Int) - read + signed)
  value.map fun value => .finite d.negative value

end Decimal

end ScopePaint.Number
