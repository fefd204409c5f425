/-!
Rounding to binary floating point.

A format has a number of bits and a range of exponents. `Format.round` gives the value of a format
nearest to a fraction, the even one of two equally near ones, or nothing if the fraction is too
large for it.
-/

set_option autoImplicit false

namespace ScopePaint.Number

/-- The magnitude `mantissa * 2 ^ exponent`. -/
structure Dyadic where
  mantissa : Nat
  exponent : Int
  deriving DecidableEq, Repr

/-- A binary format: the bits of a mantissa, and the exponents it may have. -/
structure Format where
  precision : Nat
  least : Int
  greatest : Int
  deriving DecidableEq, Repr

namespace Format

/-- Single precision. -/
def single : Format := ⟨24, -149, 104⟩

/-- Double precision. -/
def double : Format := ⟨53, -1074, 971⟩

end Format

/-- The quotient `num / den`, rounded to the nearest integer and to the even one of two. -/
def roundQuotient (num den : Nat) : Nat :=
  let quotient := num / den
  let twice := 2 * (num % den)
  if twice < den then quotient
  else if den < twice then quotient + 1
  else quotient + quotient % 2

/-- The fraction `(num / den) / 2 ^ exponent` as a pair. -/
def scaled (num den : Nat) (exponent : Int) : Nat × Nat :=
  match exponent with
  | .ofNat e => (num, den * Nat.pow 2 e)
  | .negSucc e => (num * Nat.pow 2 (e + 1), den)

namespace Format

/-- The exponent that the rounded value of a fraction has, unless rounding carries. -/
def exponentFor (f : Format) (num den : Nat) : Int :=
  let guess := (num.log2 : Int) - den.log2 - f.precision + 1
  let (n, d) := scaled num den guess
  let exact := if n / d < Nat.pow 2 (f.precision - 1) then guess - 1 else guess
  max f.least exact

/-- The value nearest to a fraction; `none` if it is out of range. -/
def round (f : Format) (num den : Nat) : Option Dyadic :=
  if num = 0 then some ⟨0, f.least⟩
  else
    let exponent := f.exponentFor num den
    let (n, d) := scaled num den exponent
    let mantissa := roundQuotient n d
    let value : Dyadic :=
      if mantissa = Nat.pow 2 f.precision then ⟨Nat.pow 2 (f.precision - 1), exponent + 1⟩
      else ⟨mantissa, exponent⟩
    if f.greatest < value.exponent then none else some value

end Format

namespace Dyadic

/-- A magnitude as a fraction. -/
def fraction (d : Dyadic) : Nat × Nat :=
  match d.exponent with
  | .ofNat e => (d.mantissa * Nat.pow 2 e, 1)
  | .negSucc e => (d.mantissa, Nat.pow 2 (e + 1))

/-- The product of two magnitudes, rounded. -/
def mul (f : Format) (a b : Dyadic) : Option Dyadic :=
  let (p, q) := a.fraction
  let (r, s) := b.fraction
  f.round (p * r) (q * s)

/-- The quotient of two magnitudes, rounded. -/
def div (f : Format) (a b : Dyadic) : Option Dyadic :=
  let (p, q) := a.fraction
  let (r, s) := b.fraction
  f.round (p * s) (q * r)

end Dyadic

end ScopePaint.Number
