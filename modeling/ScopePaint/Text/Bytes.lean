/-!
Byte offsets in texts.

Offsets count the bytes of the UTF-8 form. Characters take one to four bytes, so not every offset
is a place between two characters: `charIndex?` gives the number of characters before an offset that
is, and `splitAtByte?` cuts a text there.
-/

set_option autoImplicit false

namespace ScopePaint.Text

/-- A range of byte offsets; it holds `start` but not `stop`. -/
structure Span where
  start : Nat
  stop : Nat
  deriving DecidableEq, Repr

namespace Span

/-- Whether no offset lies in the range. -/
def isEmpty (r : Span) : Bool := r.stop ≤ r.start

/-- How many offsets lie in the range. -/
def length (r : Span) : Nat := r.stop - r.start

/-- Whether an offset lies in the range. -/
def contains (r : Span) (offset : Nat) : Bool := r.start ≤ offset && offset < r.stop

end Span

/-- How many bytes some characters take. -/
def byteLength : List Char → Nat
  | [] => 0
  | c :: cs => c.utf8Size + byteLength cs

/-- Cut a text at a byte offset, if it lies between two characters. -/
def splitAtByte? : Nat → List Char → Option (List Char × List Char)
  | 0, cs => some ([], cs)
  | _ + 1, [] => none
  | n + 1, c :: cs =>
    if c.utf8Size ≤ n + 1 then
      (splitAtByte? (n + 1 - c.utf8Size) cs).map fun parts => (c :: parts.1, parts.2)
    else none

/-- How many characters come before a byte offset, if it lies between two characters. -/
def charIndex? (cs : List Char) (offset : Nat) : Option Nat :=
  (splitAtByte? offset cs).map fun parts => parts.1.length

/-- The byte offset behind the first `index` characters. -/
def byteOffset (cs : List Char) (index : Nat) : Nat := byteLength (cs.take index)

/-- The part of a text in a range, if both of its ends lie between characters and in order. -/
def slice? (cs : List Char) (r : Span) : Option (List Char) :=
  if r.start ≤ r.stop then
    (splitAtByte? r.start cs).bind fun parts =>
      (splitAtByte? (r.stop - r.start) parts.2).map (·.1)
  else none

end ScopePaint.Text
