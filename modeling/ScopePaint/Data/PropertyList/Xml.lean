import ScopePaint.Data.Markup
import ScopePaint.Data.PropertyList.Leaf
import ScopePaint.Data.PropertyList.Part
import ScopePaint.Unicode.Word

/-!
Property lists in XML.

Elements with other names than those of the format are errors, but a root element is not needed.
Between elements there is nothing but white space.
-/

set_option autoImplicit false

namespace ScopePaint.Data.PropertyList

open Markup (Token)

/-- The text of an element up to its end. Comments and other marks in it do not count. -/
def readContent : List Token → Option (List Char × List Token)
  | [] => none
  | .closing _ :: rest => some ([], rest)
  | .text content :: rest => (readContent rest).map fun parts => (content ++ parts.1, parts.2)
  | .reference name :: rest =>
    match Markup.resolve name with
    | some c => (readContent rest).map fun parts => (c :: parts.1, parts.2)
    | none => none
  | .declaration :: rest | .other :: rest => readContent rest
  | .opening _ :: _ | .bad :: _ => none

/-- Read the next part of an element or between elements. -/
def readPart : List Token → Option (Part × List Token)
  | [] => none
  | .opening name :: rest =>
    match String.ofList name with
    | "plist" => readPart rest
    | "array" => some (.list, rest)
    | "dict" => some (.dictionary, rest)
    | "true" => some (.value (.bool true), rest)
    | "false" => some (.value (.bool false), rest)
    | name => do
      if ["key", "string", "data", "date", "integer", "real"].contains name then
        let (content, rest) ← readContent rest
        return (.value (← readLeaf name content), rest)
      else none
  | .closing name :: rest =>
    if String.ofList name = "array" ∨ String.ofList name = "dict" then some (.done, rest)
    else readPart rest
  | .text content :: rest => if content.all Unicode.isWhiteSpace then readPart rest else none
  | .declaration :: rest | .other :: rest => readPart rest
  | .reference _ :: _ | .bad :: _ => none

/-- The parts of some tokens, up to where they are malformed. -/
def partsOfTokens : Nat → List Token → List Part
  | 0, _ => []
  | fuel + 1, tokens =>
    match readPart tokens with
    | some (part, tokens) => part :: partsOfTokens fuel tokens
    | none => []

/-- Read a property list in XML. -/
def readXml (cs : List Char) : Option Value :=
  let tokens := Markup.tokens cs
  ofParts (partsOfTokens (tokens.length + 1) tokens)

end ScopePaint.Data.PropertyList
