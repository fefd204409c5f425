import ScopePaint.Data.Value

/-!
The text of data trees in JSON.

`readJson` reads a whole text. Parts that are nested more than `maxDepth` levels deep, numbers that
are out of range and texts with half a surrogate pair are broken values, so they only matter if
someone needs them.

`Json` is what is written, by `Json.compact` without any blanks and by `Json.pretty` over indented
lines.
-/

set_option autoImplicit false

namespace ScopePaint.Data

open Number (Decimal Double Single)

/-- How many levels of lists and records may lie around each other. -/
def maxDepth : Nat := 127

/-- Whether a character is a blank between tokens. -/
def isBlank (c : Char) : Bool := c == ' ' || c == '\n' || c == '\t' || c == '\r'

/-- The text behind its leading blanks. -/
def skipBlanks (cs : List Char) : List Char := cs.dropWhile isBlank

/-- Whether a character is a hexadecimal digit. -/
def isHex (c : Char) : Bool :=
  c.isDigit || ('a' ≤ c && c ≤ 'f') || ('A' ≤ c && c ≤ 'F')

/-- The value of a hexadecimal digit. -/
def hexDigit (c : Char) : Nat :=
  if c.isDigit then c.toNat - '0'.toNat
  else if 'a' ≤ c then c.toNat - 'a'.toNat + 10
  else c.toNat - 'A'.toNat + 10

/-- The number of a four-digit escape, if it is one. -/
def readHex4 : List Char → Option (Nat × List Char)
  | a :: b :: c :: d :: rest =>
    if isHex a ∧ isHex b ∧ isHex c ∧ isHex d then
      some (((hexDigit a * 16 + hexDigit b) * 16 + hexDigit c) * 16 + hexDigit d, rest)
    else none
  | _ => none

/-- A unit of a written text: a character, or half of one. -/
inductive TextUnit where
  | char (c : Char)
  | half (code : Nat)

/-- The units of a text up to its closing quote. -/
def readUnits : Nat → List Char → Option (List TextUnit × List Char)
  | 0, _ => none
  | fuel + 1, cs =>
    let put := fun (u : TextUnit) (rest : List Char) =>
      (readUnits fuel rest).map fun result => (u :: result.1, result.2)
    match cs with
    | [] => none
    | '"' :: rest => some ([], rest)
    | '\\' :: c :: rest =>
      match c with
      | '"' => put (.char '"') rest
      | '\\' => put (.char '\\') rest
      | '/' => put (.char '/') rest
      | 'b' => put (.char '\x08') rest
      | 'f' => put (.char '\x0c') rest
      | 'n' => put (.char '\n') rest
      | 'r' => put (.char '\r') rest
      | 't' => put (.char '\t') rest
      | 'u' =>
        match readHex4 rest with
        | some (code, rest) =>
          if 0xD800 ≤ code ∧ code < 0xE000 then put (.half code) rest
          else put (.char (Char.ofNat code)) rest
        | none => none
      | _ => none
    | c :: rest => if c.toNat < 0x20 then none else put (.char c) rest

/-- The characters of some units; `none` if half a character stands alone. -/
def joinUnits : List TextUnit → Option (List Char)
  | [] => some []
  | .char c :: rest => (joinUnits rest).map (c :: ·)
  | .half high :: .half low :: rest =>
    if high < 0xDC00 ∧ 0xDC00 ≤ low then
      (joinUnits rest).map
        (Char.ofNat (0x10000 + (high - 0xD800) * 0x400 + (low - 0xDC00)) :: ·)
    else none
  | .half _ :: _ => none

/-- A text up to its closing quote; the text is `none` if it is broken. -/
def readText (cs : List Char) : Option (Option String × List Char) :=
  (readUnits (cs.length + 1) cs).map fun result =>
    ((joinUnits result.1).map String.ofList, result.2)

/-- Digits of which there has to be at least one. -/
def readDigits (cs : List Char) : Option (List Char × List Char) :=
  match cs.takeWhile Char.isDigit with
  | [] => none
  | digits => some (digits, cs.drop digits.length)

/-- The value of a number. Integers outside of 64 bits and minus zero are not exact. -/
def numberValue (d : Decimal) (isInteger : Bool) : Value :=
  let real := match d.toDouble? with
    | some x => Value.real x
    | none => .broken
  if isInteger then
    let magnitude := Number.digitsValue d.whole
    if d.negative then
      if magnitude ≠ 0 ∧ magnitude ≤ Nat.pow 2 63 then .integer (-(magnitude : Int)) else real
    else if magnitude < Nat.pow 2 64 then .integer magnitude else real
  else real

/-- Read a number. -/
def readNumber (cs : List Char) : Option (Value × List Char) := do
  let (negative, cs) := match cs with
    | '-' :: rest => (true, rest)
    | _ => (false, cs)
  let (whole, cs) ← match cs with
    | '0' :: rest => if rest.head?.any Char.isDigit then none else some (['0'], rest)
    | _ => readDigits cs
  let (fraction, hasFraction, cs) ← match cs with
    | '.' :: rest => (readDigits rest).map fun result => (result.1, true, result.2)
    | _ => some ([], false, cs)
  let (exponentNegative, exponent, hasExponent, cs) ← match cs with
    | c :: rest =>
      if c = 'e' ∨ c = 'E' then
        let (negative, rest) := match rest with
          | '+' :: rest => (false, rest)
          | '-' :: rest => (true, rest)
          | _ => (false, rest)
        (readDigits rest).map fun result => (negative, result.1, true, result.2)
      else some (false, [], false, cs)
    | [] => some (false, [], false, cs)
  let value := numberValue ⟨negative, whole, fraction, exponentNegative, exponent⟩
    (!hasFraction && !hasExponent)
  return (value, cs)

/-- A list or record, which is broken if it lies too deep. -/
def nested (depth : Nat) (v : Value) : Value := if maxDepth < depth then .broken else v

mutual

/-- Read a value that lies inside `depth` lists and records. -/
def readValue : Nat → Nat → List Char → Option (Value × List Char)
  | 0, _, _ => none
  | fuel + 1, depth, cs =>
    match skipBlanks cs with
    | [] => none
    | 'n' :: 'u' :: 'l' :: 'l' :: rest => some (.null, rest)
    | 't' :: 'r' :: 'u' :: 'e' :: rest => some (.bool true, rest)
    | 'f' :: 'a' :: 'l' :: 's' :: 'e' :: rest => some (.bool false, rest)
    | '"' :: rest => (readText rest).map fun result =>
        (match result.1 with
          | some s => .text s
          | none => .broken, result.2)
    | '[' :: rest =>
      match skipBlanks rest with
      | ']' :: rest => some (nested (depth + 1) (.list []), rest)
      | rest => (readItems fuel (depth + 1) rest).map fun result =>
          (nested (depth + 1) (.list result.1), result.2)
    | '\x7b' :: rest =>
      match skipBlanks rest with
      | '\x7d' :: rest => some (nested (depth + 1) (.record []), rest)
      | rest => (readFields fuel (depth + 1) rest).map fun result =>
          (nested (depth + 1) (match result.1 with
            | some fields => .record fields
            | none => .broken), result.2)
    | rest => readNumber rest

/-- Read the items of a list up to its closing bracket; there is at least one. -/
def readItems : Nat → Nat → List Char → Option (List Value × List Char)
  | 0, _, _ => none
  | fuel + 1, depth, cs => do
    let (v, rest) ← readValue fuel depth cs
    match skipBlanks rest with
    | ',' :: rest =>
      let (items, rest) ← readItems fuel depth rest
      return (v :: items, rest)
    | ']' :: rest => return ([v], rest)
    | _ => none

/-- Read the fields of a record up to its closing brace; there is at least one. Fields with a
broken name make the record broken. -/
def readFields : Nat → Nat → List Char → Option (Option (List (String × Value)) × List Char)
  | 0, _, _ => none
  | fuel + 1, depth, cs => do
    match skipBlanks cs with
    | '"' :: rest =>
      let (name, rest) ← readText rest
      match skipBlanks rest with
      | ':' :: rest =>
        let (v, rest) ← readValue fuel depth rest
        match skipBlanks rest with
        | ',' :: rest =>
          let (fields, rest) ← readFields fuel depth rest
          return (name.bind fun name => fields.map ((name, v) :: ·), rest)
        | '\x7d' :: rest => return (name.map fun name => [(name, v)], rest)
        | _ => none
      | _ => none
    | _ => none

end

/-- Read a whole text. -/
def readJson (text : String) : Option Value :=
  let cs := text.toList
  match readValue (2 * cs.length + 2) 0 cs with
  | some (v, rest) => if (skipBlanks rest).isEmpty then some v else none
  | none => none

/-- Data to be written. -/
inductive Json where
  | null
  | bool (b : Bool)
  | integer (n : Int)
  | single (x : Single)
  | text (s : String)
  | list (items : List Json)
  | record (fields : List (String × Json))
  deriving Repr

namespace Json

/-- A natural number. -/
def nat (n : Nat) : Json := integer n

/-- The digits of a number below 16. -/
def hexChar (n : Nat) : Char := Nat.digitChar n

/-- A character as it stands between quotes. -/
def escapeChar (c : Char) : List Char :=
  if c = '"' then ['\\', '"']
  else if c = '\\' then ['\\', '\\']
  else if c = '\x08' then ['\\', 'b']
  else if c = '\x0c' then ['\\', 'f']
  else if c = '\n' then ['\\', 'n']
  else if c = '\r' then ['\\', 'r']
  else if c = '\t' then ['\\', 't']
  else if c.toNat < 0x20 then
    ['\\', 'u', '0', '0', hexChar (c.toNat / 16), hexChar (c.toNat % 16)]
  else [c]

/-- A text between quotes. -/
def quote (s : String) : String :=
  String.ofList ('"' :: s.toList.flatMap escapeChar ++ ['"'])

/-- The text of a value that has no parts. -/
def leaf : Json → String
  | null => "null"
  | bool b => if b then "true" else "false"
  | integer n => toString n
  | single x => if x.isFinite then x.text else "null"
  | text s => quote s
  | list _ => "[]"
  | record _ => "\x7b\x7d"

mutual

/-- The text without any blanks. -/
def compact : Json → String
  | list items => "[" ++ compactItems items ++ "]"
  | record fields => "\x7b" ++ compactFields fields ++ "\x7d"
  | v => v.leaf

/-- The items of a list, separated by commas. -/
def compactItems : List Json → String
  | [] => ""
  | [v] => v.compact
  | v :: rest => v.compact ++ "," ++ compactItems rest

/-- The fields of a record, separated by commas. -/
def compactFields : List (String × Json) → String
  | [] => ""
  | [(name, v)] => quote name ++ ":" ++ v.compact
  | (name, v) :: rest => quote name ++ ":" ++ v.compact ++ "," ++ compactFields rest

end

/-- A new line, indented by two blanks a level. -/
def lineBreak (level : Nat) : String :=
  String.ofList ('\n' :: List.replicate (2 * level) ' ')

mutual

/-- The text over indented lines, for a value that lies `level` levels deep. -/
def prettyAt (level : Nat) : Json → String
  | list [] => "[]"
  | record [] => "\x7b\x7d"
  | list items => "[" ++ prettyItems (level + 1) items ++ lineBreak level ++ "]"
  | record fields => "\x7b" ++ prettyFields (level + 1) fields ++ lineBreak level ++ "\x7d"
  | v => v.leaf

/-- The items of a list, each on a line of its own. -/
def prettyItems (level : Nat) : List Json → String
  | [] => ""
  | [v] => lineBreak level ++ v.prettyAt level
  | v :: rest => lineBreak level ++ v.prettyAt level ++ "," ++ prettyItems level rest

/-- The fields of a record, each on a line of its own. -/
def prettyFields (level : Nat) : List (String × Json) → String
  | [] => ""
  | [(name, v)] => lineBreak level ++ quote name ++ ": " ++ v.prettyAt level
  | (name, v) :: rest =>
    lineBreak level ++ quote name ++ ": " ++ v.prettyAt level ++ "," ++ prettyFields level rest

end

/-- The text over indented lines. -/
def pretty (v : Json) : String := v.prettyAt 0

end Json

end ScopePaint.Data
