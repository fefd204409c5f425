import ScopePaint.Unicode.Block
import ScopePaint.Unicode.CaseFolding
import ScopePaint.Unicode.Category
import ScopePaint.Unicode.Derived
import ScopePaint.Unicode.Script
import ScopePaint.Unicode.Word

/-!
Sets of characters, as bracket expressions and character types denote them.

A set is an expression over ranges and tables; `CharSet.contains` is its meaning. `anyCase` closes
a set under case: a character belongs to it if one of its case variants belongs to the set.
-/

set_option autoImplicit false

namespace ScopePaint.Regex

/-- An expression for a set of characters. -/
inductive CharSet where
  | empty
  | range (first last : Nat)
  | table (ranges : Unicode.Ranges)
  | union (left right : CharSet)
  | inter (left right : CharSet)
  | compl (set : CharSet)
  | anyCase (set : CharSet)
  deriving DecidableEq, Repr

namespace CharSet

/-- Whether a character belongs to a set. -/
def contains : CharSet → Char → Bool
  | empty, _ => false
  | range first last, c => first ≤ c.toNat && c.toNat ≤ last
  | table ranges, c => ranges.contains c.toNat
  | union left right, c => left.contains c || right.contains c
  | inter left right, c => left.contains c && right.contains c
  | compl set, c => !set.contains c
  | anyCase set, c =>
    set.contains c || (Unicode.CaseFolding.variants c).any fun other => set.contains other

/-- The set of one character. -/
def single (c : Char) : CharSet := range c.toNat c.toNat

/-- The set of the characters in a list. -/
def ofList (cs : List Char) : CharSet :=
  cs.foldr (fun c set => union (single c) set) empty

/-- All characters. -/
def any : CharSet := compl empty

/-- All characters but the line feed. -/
def notNewline : CharSet := compl (range 0xA 0xA)

/-- The characters with codes below 128. -/
def ascii : CharSet := range 0 0x7F

/-- The set itself, or its complement. -/
def negateIf (negated : Bool) (set : CharSet) : CharSet :=
  if negated then compl set else set

/-- The set itself, or what it has in common with `ascii`. -/
def asciiIf (asciiOnly : Bool) (set : CharSet) : CharSet :=
  if asciiOnly then inter ascii set else set

/-- The union of some categories. -/
def ofCategories (categories : List Unicode.Category) : CharSet :=
  categories.foldr (fun category set => union (table category.ranges) set) empty

/-- Word characters. -/
def word : CharSet :=
  union (range 0x30 0x39) (union (range 0x41 0x5A) (union (range 0x5F 0x5F)
    (union (range 0x61 0x7A) (inter (compl ascii) (table Unicode.wordRanges)))))

/-- Decimal digits. -/
def digit : CharSet := union (range 0x30 0x39) (ofCategories [.decimalNumber])

/-- White space. -/
def space : CharSet := table Unicode.whiteSpaceRanges

/-- Hexadecimal digits. -/
def hexDigit : CharSet :=
  union (range 0x30 0x39) (union (range 0x41 0x46) (range 0x61 0x66))

/-- The property with a given name among the yes-or-no properties. -/
def derived (name : String) : CharSet :=
  match Unicode.Derived.table? name with
  | some ranges => table (.ofText ranges)
  | none => empty

/-- Letters. -/
def alphabetic : CharSet := derived "alphabetic"

/-- Characters with a visible shape. -/
def graph : CharSet :=
  compl (union space (ofCategories [.control, .unassigned, .surrogate]))

/-- Punctuation, together with the symbols of ASCII. -/
def punctuation : CharSet :=
  union (ofCategories [.connectorPunctuation, .dashPunctuation, .openPunctuation,
      .closePunctuation, .initialPunctuation, .finalPunctuation, .otherPunctuation])
    (ofList ['$', '+', '<', '=', '>', '^', '\x60', '|', '~'])

/-- The class with a name of the bracketed kind, as in `[:alpha:]`. -/
def ofPosixName? : String → Option CharSet
  | "alnum" => some (union alphabetic digit)
  | "alpha" => some alphabetic
  | "blank" => some (union (range 9 9) (ofCategories [.spaceSeparator]))
  | "cntrl" => some (ofCategories [.control])
  | "digit" => some digit
  | "graph" => some graph
  | "lower" => some (derived "lowercase")
  | "print" => some (union graph (ofCategories [.spaceSeparator]))
  | "punct" => some punctuation
  | "space" => some space
  | "upper" => some (derived "uppercase")
  | "xdigit" => some hexDigit
  | "ascii" => some ascii
  | "word" => some word
  | _ => none

/-- The names of the bracketed kind, in the order in which they are tried. -/
def posixNames : List String :=
  ["alnum", "alpha", "blank", "cntrl", "digit", "graph", "lower", "print", "punct", "space",
    "upper", "xdigit", "ascii", "word"]

/-- The block with this name, which begins with `in`. -/
def ofBlockName? (name : String) : Option CharSet :=
  go ((Unicode.parts Unicode.Block.table.toList).map String.ofList)
where
  go : List String → Option CharSet
    | block :: ranges :: rest =>
      if block = name then some (table (.ofText ranges)) else go rest
    | _ => none

/-- The name of a property without its blanks, dashes and underscores, in lower case. -/
def plainName (name : List Char) : String :=
  String.ofList ((name.filter fun c => c != ' ' && c != '-' && c != '_').map Char.toLower)

/-- The characters with the property of this name: a class, a category, a script, a yes-or-no
property or a block. Blanks, dashes, underscores and case of the name do not matter. -/
def ofProperty? (name : List Char) : Option CharSet :=
  let plain := plainName name
  match ofPosixName? plain with
  | some set => some set
  | none =>
    if plain = "any" then some any
    else if plain = "assigned" then some (compl (ofCategories [.unassigned]))
    else match Unicode.Category.ofName? plain with
      | some categories => some (ofCategories categories)
      | none =>
        match (Unicode.Script.table? plain).orElse fun _ => Unicode.Derived.table? plain with
        | some ranges => some (table (.ofText ranges))
        | none => ofBlockName? plain

end CharSet

end ScopePaint.Regex
