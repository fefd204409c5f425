import ScopePaint.Number.Double

/-!
Single precision numbers and their shortest decimal text.

The text of a number has the fewest digits that still round to it, and of those the digits nearest
to it. It is positional for decimal exponents from -6 to 12, with a point and at least one digit
behind it, and has an exponent of a sign and at least two digits elsewhere.
-/

set_option autoImplicit false

namespace ScopePaint.Number

/-- A number of single precision by its bits. -/
structure Single where
  bits : UInt32
  deriving DecidableEq, Repr

namespace Single

/-- The number with a sign and a magnitude. -/
def ofMagnitude (negative : Bool) (magnitude : Option Dyadic) : Single :=
  let sign : Nat := if negative then Nat.pow 2 31 else 0
  let rest : Nat := match magnitude with
    | none => 0x7F800000
    | some d =>
      if d.mantissa < Nat.pow 2 23 then d.mantissa
      else (d.exponent + 150).toNat * Nat.pow 2 23 + (d.mantissa - Nat.pow 2 23)
  ⟨.ofNat (sign + rest)⟩

/-- Zero. -/
def zero : Single := ⟨0⟩

/-- The number nearest to an integer. -/
def ofInt (n : Int) : Single :=
  ofMagnitude (decide (n < 0)) (Format.single.round n.natAbs 1)

/-- The number nearest to a double. -/
def ofDouble : Double → Single
  | .finite negative magnitude =>
    let (num, den) := magnitude.fraction
    ofMagnitude negative (Format.single.round num den)
  | .infinite negative => ofMagnitude negative none
  | .notANumber => ⟨0x7FC00000⟩

/-- Whether the sign is negative. -/
def isNegative (x : Single) : Bool := Nat.pow 2 31 ≤ x.bits.toNat

/-- The bits of the exponent. -/
def exponentBits (x : Single) : Nat := x.bits.toNat / Nat.pow 2 23 % Nat.pow 2 8

/-- The bits of the mantissa. -/
def mantissaBits (x : Single) : Nat := x.bits.toNat % Nat.pow 2 23

/-- Whether this is a number, and not an infinity. -/
def isFinite (x : Single) : Bool := x.exponentBits ≠ 255

/-- Whether this stands for no number. -/
def isNaN (x : Single) : Bool := x.exponentBits = 255 ∧ x.mantissaBits ≠ 0

/-- The magnitude of a finite number. -/
def magnitude (x : Single) : Dyadic :=
  if x.exponentBits = 0 then ⟨x.mantissaBits, -149⟩
  else ⟨x.mantissaBits + Nat.pow 2 23, (x.exponentBits : Int) - 150⟩

/-- Equality of numbers: both zeros are equal, and what is no number equals nothing. -/
def eqv (x y : Single) : Bool :=
  !x.isNaN && !y.isNaN && (x.bits == y.bits
    || (x.bits.toNat % Nat.pow 2 31 == 0 && y.bits.toNat % Nat.pow 2 31 == 0))

/-- A fraction times a power of ten, as a fraction. -/
def timesTen (num den : Nat) (exponent : Int) : Nat × Nat :=
  match exponent with
  | .ofNat e => (num * Nat.pow 10 e, den)
  | .negSucc e => (num, den * Nat.pow 10 (e + 1))

/-- The exponent of the leading decimal digit of a positive fraction below `10 ^ 60`: counting
down from `e`, the first one whose power of ten is not above the fraction. -/
def leadingExponent (num den : Nat) : Nat → Int → Int
  | 0, e => e
  | fuel + 1, e =>
    let (n, d) := timesTen num den (-e)
    if d ≤ n then e else leadingExponent num den fuel (e - 1)

/-- The two ends of the interval of fractions that round to a magnitude, over the common denominator
`4 * den`. The interval reaches only half as far down from a power of two. -/
def roundingInterval (d : Dyadic) : Nat × Nat × Nat :=
  let (_, den) := d.fraction
  let unit := (Dyadic.fraction ⟨1, d.exponent⟩).1
  let num := d.mantissa * unit
  let below := if d.mantissa = Nat.pow 2 23 ∧ -149 < d.exponent then unit else 2 * unit
  (4 * num - below, 4 * num + 2 * unit, 4 * den)

/-- The better of two neighbouring digit strings on a grid that lie in the interval, if any: the
nearer one, or the even one of two equally near. -/
def bestDigits (d : Dyadic) (grid : Int) : Option Nat :=
  let (num, den) := d.fraction
  let (low, high, base) := roundingInterval d
  let closed := d.mantissa % 2 = 0
  let (n, m) := timesTen num den (-grid)
  let digits := n / m
  let inside := fun (k : Nat) =>
    let (p, q) := timesTen k 1 grid
    let left := low * q
    let right := high * q
    let value := p * base
    if closed then decide (left ≤ value ∧ value ≤ right) else decide (left < value ∧ value < right)
  match inside digits, inside (digits + 1) with
  | true, true => some (roundQuotient n m)
  | true, false => some digits
  | false, true => some (digits + 1)
  | false, false => none

/-- Look for the shortest digits, beginning with `count` of them. -/
def shortestFrom (d : Dyadic) (leading : Int) : Nat → Nat → Nat × Int
  | 0, _ => (0, 0)
  | fuel + 1, count =>
    let grid := leading - count + 1
    match bestDigits d grid with
    | some digits => (digits, grid)
    | none => shortestFrom d leading fuel (count + 1)

/-- Take trailing zeros off digits. -/
def dropZeros : Nat → Nat → Int → Nat × Int
  | 0, digits, grid => (digits, grid)
  | fuel + 1, digits, grid =>
    if digits ≠ 0 ∧ digits % 10 = 0 then dropZeros fuel (digits / 10) (grid + 1)
    else (digits, grid)

/-- The shortest digits of a positive magnitude, and the power of ten they count. -/
def shortest (d : Dyadic) : Nat × Int :=
  let (num, den) := d.fraction
  let (digits, grid) := shortestFrom d (leadingExponent num den 120 60) 12 1
  dropZeros 12 digits grid

/-- The text of digits that count a power of ten. -/
def decimalText (digits : Nat) (grid : Int) : String :=
  let text := (Nat.toDigits 10 digits)
  let exponent : Int := grid + text.length - 1
  let zeros := fun (n : Nat) => List.replicate n '0'
  if -6 ≤ exponent ∧ exponent ≤ 12 then
    if 0 ≤ grid then String.ofList (text ++ zeros grid.toNat ++ ['.', '0'])
    else if 0 ≤ exponent then
      String.ofList (text.take (exponent.toNat + 1) ++ '.' :: text.drop (exponent.toNat + 1))
    else String.ofList ('0' :: '.' :: zeros (-exponent - 1).toNat ++ text)
  else
    let mantissa := match text with
      | [] => []
      | [c] => [c]
      | c :: rest => c :: '.' :: rest
    let power := Nat.toDigits 10 exponent.natAbs
    let sign := if exponent < 0 then '-' else '+'
    String.ofList (mantissa ++ 'e' :: sign :: zeros (2 - power.length) ++ power)

/-- The shortest text of a finite number. -/
def text (x : Single) : String :=
  let d := x.magnitude
  let unsigned :=
    if d.mantissa = 0 then "0.0"
    else
      let (digits, grid) := shortest d
      decimalText digits grid
  if x.isNegative then "-" ++ unsigned else unsigned

end Single

end ScopePaint.Number
