/-!
Sets of code points as sorted ranges.

The tables of the character database are kept as text: ranges in hexadecimal, separated by
blanks and line ends, such as `41-5A 61-7A AA`. `Ranges.ofText` reads such a table and
`Ranges.contains` looks a code point up by halving the interval of ranges that can still hold it.
-/

set_option autoImplicit false

namespace ScopePaint.Unicode

/-- An inclusive range of code points. -/
structure CodeRange where
  first : Nat
  last : Nat
  deriving DecidableEq, Repr

/-- Ranges of code points in ascending order, with gaps between them. -/
structure Ranges where
  items : Array CodeRange
  deriving DecidableEq, Repr

/-- The value of a hexadecimal digit; any other character counts as zero. -/
def hexDigitValue (c : Char) : Nat :=
  if c.isDigit then c.toNat - '0'.toNat
  else if 'a' ≤ c ∧ c ≤ 'f' then c.toNat - 'a'.toNat + 10
  else if 'A' ≤ c ∧ c ≤ 'F' then c.toNat - 'A'.toNat + 10
  else 0

/-- The value of a run of hexadecimal digits. -/
def hexValue (digits : List Char) : Nat :=
  digits.foldl (fun value c => value * 16 + hexDigitValue c) 0

namespace Ranges

/-- A reader of range tables: the ranges so far, the first bound of the range being read (once its
dash has been passed), and the number being read. -/
structure Reading where
  items : Array CodeRange
  first : Option Nat
  value : Nat
  started : Bool

/-- Close the range being read, if one was begun. -/
def Reading.close (r : Reading) : Reading :=
  if r.started then
    { items := r.items.push ⟨r.first.getD r.value, r.value⟩, first := none, value := 0,
      started := false }
  else r

/-- Read one more character of a range table. -/
def Reading.step (r : Reading) (c : Char) : Reading :=
  if c = ' ' ∨ c = '\n' then r.close
  else if c = '-' then { r with first := some r.value, value := 0 }
  else { r with value := r.value * 16 + hexDigitValue c, started := true }

/-- The ranges a table lists. -/
def ofText (table : String) : Ranges :=
  ⟨(table.foldl Reading.step ⟨#[], none, 0, false⟩).close.items⟩

/-- Look for `code` among the ranges with an index in `[low, high)`. -/
def search (items : Array CodeRange) (code : Nat) : Nat → Nat → Nat → Bool
  | 0, _, _ => false
  | fuel + 1, low, high =>
    if low < high then
      let middle := (low + high) / 2
      match items[middle]? with
      | none => false
      | some range =>
        if code < range.first then search items code fuel low middle
        else if range.last < code then search items code fuel (middle + 1) high
        else true
    else false

/-- Whether a code point lies in one of the ranges. -/
def contains (r : Ranges) (code : Nat) : Bool :=
  search r.items code (r.items.size + 1) 0 r.items.size

end Ranges

end ScopePaint.Unicode
