import ScopePaint.Data.PropertyList.Part
import ScopePaint.Data.Timestamp

/-!
Binary property lists.

A binary property list is a heap of objects that refer to each other by their numbers, with a table
of their places and 32 bytes at its end that describe the table.
-/

set_option autoImplicit false

namespace ScopePaint.Data.PropertyList

/-- The number that some bytes hold, the highest byte first. -/
def number (bytes : List UInt8) : Nat := bytes.foldl (fun n b => n * 256 + b.toNat) 0

/-- The characters of a text in units of 16 bits; `none` if half a character stands alone. -/
def textOfUnits : List Nat → Option (List Char)
  | [] => some []
  | unit :: rest =>
    if unit < 0xD800 ∨ 0xE000 ≤ unit then (textOfUnits rest).map (Char.ofNat unit :: ·)
    else
      match rest with
      | low :: rest =>
        if unit < 0xDC00 ∧ 0xDC00 ≤ low ∧ low < 0xE000 then
          (textOfUnits rest).map
            (Char.ofNat (0x10000 + (unit - 0xD800) * 0x400 + (low - 0xDC00)) :: ·)
        else none
      | [] => none

/-- The units of 16 bits that some bytes hold. -/
def unitsOf : List UInt8 → List Nat
  | high :: low :: rest => (high.toNat * 256 + low.toNat) :: unitsOf rest
  | _ => []

/-- A binary property list: its bytes up to the table at its end, where its objects are, and how
many bytes a reference to one of them takes. -/
structure Archive where
  bytes : Array UInt8
  offsets : Array Nat
  referenceSize : Nat

namespace Archive

/-- Some bytes of an archive. -/
def bytesAt (a : Archive) (offset count : Nat) : Option (List UInt8) :=
  if offset + count ≤ a.bytes.size then some (a.bytes.extract offset (offset + count)).toList
  else none

/-- The length of an object and where its contents begin. Short lengths stand in the object's first
byte, longer ones in an integer behind it. -/
def lengthAt (a : Archive) (offset short : Nat) : Option (Nat × Nat) :=
  if short < 15 then some (short, offset)
  else do
    let size := Nat.pow 2 (number (← a.bytesAt offset 1) % 4)
    return (number (← a.bytesAt (offset + 1) size), offset + 1 + size)

/-- The references to objects at an offset. -/
def referencesAt (a : Archive) (offset count : Nat) : Option (List Nat) :=
  if offset + count * a.referenceSize ≤ a.bytes.size then
    (List.range count).mapM fun i =>
      (a.bytesAt (offset + i * a.referenceSize) a.referenceSize).map number
  else none

/-- The point in time that bits of a double hold as seconds since the start of the year 2001. -/
def dateValue (bits : Nat) : Option Value :=
  let exponent := bits / Nat.pow 2 52 % Nat.pow 2 11
  if exponent = 2047 then none
  else
    let mantissa := bits % Nat.pow 2 52 + (if exponent = 0 then 0 else Nat.pow 2 52)
    let shift : Int := (max exponent 1 : Nat) - 1075
    let nanos : Nat := match shift with
      | .ofNat s => mantissa * Nat.pow 2 s * 1000000000
      | .negSucc s => mantissa * 1000000000 / Nat.pow 2 (s + 1)
    let start : Int := Timestamp.dayNumber 2001 1 1 * 86400 * 1000000000
    let total := if bits / Nat.pow 2 63 = 1 then start - nanos else start + nanos
    if 0 ≤ total ∧ total < Timestamp.dayNumber 10000 1 1 * 86400 * 1000000000 then
      let fraction := Timestamp.padded 9 (total.toNat % 1000000000)
      some (.text (Timestamp.text (total.toNat / 1000000000) fraction))
    else some .broken

/-- Read an object. An object must not lie inside of itself: `around` are those it lies in. -/
def object (a : Archive) : Nat → List Nat → Nat → Option Value
  | 0, _, _ => none
  | fuel + 1, around, reference => do
    if around.contains reference then none
    let offset ← a.offsets[reference]?
    let marker := number (← a.bytesAt offset 1)
    let (kind, short) := (marker / 16, marker % 16)
    let offset := offset + 1
    let inner := object a fuel (reference :: around)
    match kind, short with
    | 0, 8 => return .bool false
    | 0, 9 => return .bool true
    | 1, n =>
      if 4 < n then none
      else
        let value := number (← a.bytesAt offset (Nat.pow 2 n))
        if n = 4 ∧ Nat.pow 2 64 ≤ value then none else return .integer value
    | 2, 2 => (a.bytesAt offset 4).map fun _ => .real (.finite false ⟨0, 0⟩)
    | 2, 3 => (a.bytesAt offset 8).map fun _ => .real (.finite false ⟨0, 0⟩)
    | 3, 3 => dateValue (number (← a.bytesAt offset 8))
    | 4, n =>
      let (length, offset) ← a.lengthAt offset n
      return bytesValue (← a.bytesAt offset length)
    | 5, n =>
      let (length, offset) ← a.lengthAt offset n
      return .text (← textOfBytes (← a.bytesAt offset length))
    | 6, n =>
      let (length, offset) ← a.lengthAt offset n
      let cs ← textOfUnits (unitsOf (← a.bytesAt offset (2 * length)))
      return .text (String.ofList cs)
    | 8, n => if n < 8 then (a.bytesAt offset (n + 1)).map fun _ => .integer 0 else none
    | 10, n =>
      let (length, offset) ← a.lengthAt offset n
      return .list (← (← a.referencesAt offset length).mapM inner)
    | 13, n =>
      let (length, offset) ← a.lengthAt offset n
      let names ← a.referencesAt offset length
      let values ← a.referencesAt (offset + length * a.referenceSize) length
      let entries ← (names.zip values).mapM fun pair => do
        return (← inner pair.1, ← inner pair.2)
      return dictionary entries
    | _, _ => none

end Archive

/-- How a binary property list begins. -/
def magic : List UInt8 := "bplist00".toUTF8.toList

/-- Read a binary property list. Its last 32 bytes tell the sizes of offsets and references, how
many objects there are, which of them is the whole, and where the table of offsets is. -/
def readBinary (bytes : Array UInt8) : Option Value := do
  if bytes.size < 40 then none
  let tail := bytes.size - 32
  let field := fun (offset count : Nat) =>
    number (bytes.extract (tail + offset) (tail + offset + count)).toList
  let offsetSize := field 6 1
  let referenceSize := field 7 1
  let sizes := [1, 2, 4, 8]
  if !sizes.contains offsetSize || !sizes.contains referenceSize then none
  let count := field 8 8
  let table := field 24 8
  if tail < table + count * offsetSize then none
  let offsets := (List.range count).map fun i =>
    number (bytes.extract (table + i * offsetSize) (table + (i + 1) * offsetSize)).toList
  let archive : Archive := ⟨bytes.extract 0 tail, offsets.toArray, referenceSize⟩
  archive.object (count + 1) [] (field 16 8)

end ScopePaint.Data.PropertyList
