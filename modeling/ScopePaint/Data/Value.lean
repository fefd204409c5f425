import ScopePaint.Number.Single

/-!
Trees of data, as files hold them, and how records are read out of them.

A `Value` is what a file says before anyone asks what it means. Some values are malformed in a way
that matters only to those who use them: a number out of range, a text that is no text, a part that
is nested too deeply. They are `broken`, which no decoder accepts but an unknown field may hold.

A decoder gives nothing for a value of the wrong form. A record may be written by names or, where a
format allows it, as the list of its fields in order. By names, a field twice is an error and an
unknown field is passed over; a field that is left out is an error unless it is optional or has a
default.
-/

set_option autoImplicit false

namespace ScopePaint.Data

open Number (Double Single)

/-- A tree of data. -/
inductive Value where
  | null
  | bool (b : Bool)
  | integer (n : Int)
  | real (x : Double)
  | text (s : String)
  | list (items : List Value)
  | record (fields : List (String × Value))
  | broken
  deriving Repr

namespace Value

mutual

/-- Whether nothing in a tree is broken. -/
def sound : Value → Bool
  | broken => false
  | list items => allSound items
  | record fields => fieldsSound fields
  | _ => true

/-- Whether nothing in any of some trees is broken. -/
def allSound : List Value → Bool
  | [] => true
  | v :: rest => v.sound && allSound rest

/-- Whether nothing in any of some fields is broken. -/
def fieldsSound : List (String × Value) → Bool
  | [] => true
  | (_, v) :: rest => v.sound && fieldsSound rest

end

mutual

/-- How many trees lie inside each other at most, a tree itself among them. -/
def height : Value → Nat
  | list items => heightOfItems items + 1
  | record fields => heightOfFields fields + 1
  | _ => 1

/-- The largest height of some trees. -/
def heightOfItems : List Value → Nat
  | [] => 0
  | v :: rest => max v.height (heightOfItems rest)

/-- The largest height of the trees in some fields. -/
def heightOfFields : List (String × Value) → Nat
  | [] => 0
  | (_, v) :: rest => max v.height (heightOfFields rest)

end

/-- Read a text. -/
def asText : Value → Option String
  | text s => some s
  | _ => none

/-- Read a natural number below a bound. -/
def asNatBelow (bound : Nat) : Value → Option Nat
  | integer n => if 0 ≤ n ∧ n < bound then some n.toNat else none
  | _ => none

/-- Read a number of single precision. -/
def asSingle : Value → Option Single
  | integer n => some (.ofInt n)
  | real x => some (.ofDouble x)
  | _ => none

/-- Read a list. -/
def asList {α : Type} (decode : Value → Option α) : Value → Option (List α)
  | list items => items.mapM decode
  | _ => none

/-- Read a value that may be absent. -/
def asOption {α : Type} (decode : Value → Option α) : Value → Option (Option α)
  | null => some none
  | v => (decode v).map some

/-- Read a record as a table; of equal names the last one counts, but all have to be readable. -/
def asTable {α : Type} (decode : Value → Option α) : Value → Option (List (String × α))
  | record fields => do
    let entries ← fields.mapM fun field => (decode field.2).map fun a => (field.1, a)
    return entries.foldl (fun table entry =>
      table.filter (fun other => other.1 ≠ entry.1) ++ [entry]) []
  | _ => none

/-- Read one of several words, or a record that gives it a null as its only field. -/
def asWord : Value → Option String
  | text s => some s
  | record [(name, null)] => some name
  | _ => none

end Value

/-- The fields of a record in the order in which they are declared. -/
structure Fields where
  values : List (Option Value)
  positional : Bool

namespace Fields

/-- The value of a field by its name; the outer option is empty if the name comes twice. -/
def find (fields : List (String × Value)) (name : String) : Option (Option Value) :=
  match fields.filter fun field => field.1 = name with
  | [] => some none
  | [field] => some (some field.2)
  | _ => none

/-- The fields of a value with the given names. -/
def ofValue (positional : Bool) (names : List String) : Value → Option Fields
  | .record fields => do
    let values ← names.mapM (find fields)
    return ⟨values, false⟩
  | .list items =>
    if positional ∧ items.length ≤ names.length then some ⟨items.map some, true⟩ else none
  | _ => none

/-- The value given for a field, if any. -/
def get (f : Fields) (index : Nat) : Option Value := (f.values[index]?).join

/-- A field that has to be given. -/
def required {α : Type} (f : Fields) (index : Nat) (decode : Value → Option α) : Option α :=
  (f.get index).bind decode

/-- A field that is left to a default if it is not given. -/
def defaulted {α : Type} (f : Fields) (index : Nat) (decode : Value → Option α) (default : α) :
    Option α :=
  match f.get index with
  | some v => decode v
  | none => some default

/-- A field that may be null and, in a record by names, be left out. -/
def optional {α : Type} (f : Fields) (index : Nat) (decode : Value → Option α) :
    Option (Option α) :=
  match f.get index with
  | some v => v.asOption decode
  | none => if f.positional then none else some none

end Fields

end ScopePaint.Data
