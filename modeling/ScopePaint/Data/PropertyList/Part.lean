import ScopePaint.Data.Value

/-!
The parts of property lists.

Every form of property lists comes down to the same parts: values without parts, and marks where
collections begin and end. A list of parts that ends too early stands for a property list that is
malformed from there on; only the first value counts, and what comes behind it is not looked at.
-/

set_option autoImplicit false

namespace ScopePaint.Data.PropertyList

/-- The text of some bytes, if they are one. -/
def textOfBytes (bytes : List UInt8) : Option String := String.fromUTF8? ⟨bytes.toArray⟩

/-- The value of some bytes. -/
def bytesValue (bytes : List UInt8) : Value :=
  match textOfBytes bytes with
  | some s => .text s
  | none => .broken

/-- A part: a value without parts, or where a collection begins or ends. -/
inductive Part where
  | value (v : Value)
  | list
  | dictionary
  | done
  deriving Repr

/-- A dictionary of names and values. -/
def dictionary (entries : List (Value × Value)) : Value :=
  let fields := entries.mapM fun entry => entry.1.asText.map fun name => (name, entry.2)
  match fields with
  | some fields => .record fields
  | none => .broken

mutual

/-- Read the value that some parts begin with. -/
def readValue : Nat → List Part → Option (Value × List Part)
  | 0, _ | _, [] => none
  | fuel + 1, part :: parts =>
    match part with
    | .value v => some (v, parts)
    | .list => (readItems fuel parts).map fun result => (.list result.1, result.2)
    | .dictionary => (readEntries fuel parts).map fun result => (dictionary result.1, result.2)
    | .done => none

/-- Read values up to the end of a list. -/
def readItems : Nat → List Part → Option (List Value × List Part)
  | 0, _ => none
  | _, .done :: parts => some ([], parts)
  | fuel + 1, parts => do
    let (v, parts) ← readValue fuel parts
    let (items, parts) ← readItems fuel parts
    return (v :: items, parts)

/-- Read names and values up to the end of a dictionary. -/
def readEntries : Nat → List Part → Option (List (Value × Value) × List Part)
  | 0, _ => none
  | _, .done :: parts => some ([], parts)
  | fuel + 1, parts => do
    let (name, parts) ← readValue fuel parts
    let (v, parts) ← readValue fuel parts
    let (entries, parts) ← readEntries fuel parts
    return ((name, v) :: entries, parts)

end

/-- The first value that some parts stand for. -/
def ofParts (parts : List Part) : Option Value :=
  (readValue (2 * parts.length + 2) parts).map (·.1)

end ScopePaint.Data.PropertyList
