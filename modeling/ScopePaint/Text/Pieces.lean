import ScopePaint.Unicode.Word

/-!
Cutting texts into pieces.

`splitAt` cuts at every occurrence of a character, so that putting the character back between the
pieces gives the text: a text has one piece more than it has separators. `trim` takes white space
off both ends.
-/

set_option autoImplicit false

namespace ScopePaint.Text

/-- The pieces of a text between the occurrences of a separator; there is always at least one. -/
def splitAt (separator : Char) : List Char → List (List Char)
  | [] => [[]]
  | c :: rest =>
    if c = separator then [] :: splitAt separator rest
    else
      match splitAt separator rest with
      | [] => [[c]]
      | piece :: pieces => (c :: piece) :: pieces

/-- The pieces of a string between the occurrences of a separator. -/
def split (separator : Char) (s : String) : List String :=
  (splitAt separator s.toList).map String.ofList

/-- Pieces with a separator between them. -/
def join (separator : String) : List String → String
  | [] => ""
  | [piece] => piece
  | piece :: pieces => piece ++ separator ++ join separator pieces

/-- A text without the white space at its ends. -/
def trim (cs : List Char) : List Char :=
  ((cs.dropWhile Unicode.isWhiteSpace).reverse.dropWhile Unicode.isWhiteSpace).reverse

/-- What comes before the first occurrence of a separator and what comes after it. -/
def cutAt? (separator : Char) : List Char → Option (List Char × List Char)
  | [] => none
  | c :: rest =>
    if c = separator then some ([], rest)
    else (cutAt? separator rest).map fun parts => (c :: parts.1, parts.2)

end ScopePaint.Text
