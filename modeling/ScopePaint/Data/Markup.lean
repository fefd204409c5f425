/-!
The tokens of XML.

`Markup.tokens` cuts a text into tags, texts and references. Tags are checked to be closed in order;
an element without content counts as an opening tag and a closing one. Where a text stops being XML
the tokens end with `bad`. Attributes, the document type and the encoding are passed over.
-/

set_option autoImplicit false

namespace ScopePaint.Data.Markup

/-- A token; tags have the local part of their name, and `other` is what holds no data. -/
inductive Token where
  | declaration
  | opening (name : List Char)
  | closing (name : List Char)
  | text (content : List Char)
  | reference (name : List Char)
  | other
  | bad
  deriving DecidableEq, Repr

/-- Whether a character is a blank inside of a tag. -/
def isBlank (c : Char) : Bool := c == ' ' || c == '\t' || c == '\n' || c == '\r'

/-- The text behind the first occurrence of an end mark. -/
def skipPast (mark : List Char) : List Char → Option (List Char)
  | [] => none
  | c :: rest =>
    if mark.isPrefixOf (c :: rest) then some ((c :: rest).drop mark.length)
    else skipPast mark rest

/-- The text behind a document type, in which angle brackets have to pair up. -/
def skipDocumentType : Nat → List Char → Option (List Char)
  | _, [] => none
  | depth, '<' :: rest => skipDocumentType (depth + 1) rest
  | 0, '>' :: rest => some rest
  | depth + 1, '>' :: rest => skipDocumentType depth rest
  | depth, _ :: rest => skipDocumentType depth rest

/-- What a tag holds up to its closing bracket, which does not count between quotes. -/
def readTag (quote : Option Char) : List Char → Option (List Char × List Char)
  | [] => none
  | c :: rest =>
    let next := match quote with
      | some q => if c = q then none else quote
      | none => if c = '"' ∨ c = '\'' then some c else none
    if c = '>' ∧ quote.isNone then some ([], rest)
    else (readTag next rest).map fun parts => (c :: parts.1, parts.2)

/-- What comes before a character and what comes behind it. -/
def readUntil (mark : Char) : List Char → Option (List Char × List Char)
  | [] => none
  | c :: rest =>
    if c = mark then some ([], rest)
    else (readUntil mark rest).map fun parts => (c :: parts.1, parts.2)

/-- A name without its namespace. -/
def localName (name : List Char) : List Char :=
  match readUntil ':' name with
  | some (_, rest) => rest
  | none => name

/-- A text without the blanks at its end. -/
def trimEnd (cs : List Char) : List Char := (cs.reverse.dropWhile isBlank).reverse

/-- Cut a text into tokens. `opened` are the names of the elements around it, from the inside
out. -/
def read : Nat → List (List Char) → List Char → List Token
  | 0, _, _ => []
  | _ + 1, _, [] => []
  | fuel + 1, opened, '<' :: rest =>
    let past := fun (token : Token) (mark : List Char) (rest : List Char) =>
      match skipPast mark rest with
      | some rest => token :: read fuel opened rest
      | none => [.bad]
    match rest with
    | '!' :: '-' :: '-' :: rest => past .other ['-', '-', '>'] rest
    | '!' :: '[' :: 'C' :: 'D' :: 'A' :: 'T' :: 'A' :: '[' :: rest =>
      past .other [']', ']', '>'] rest
    | '!' :: 'D' :: rest | '!' :: 'd' :: rest =>
      match skipDocumentType 0 rest with
      | some rest => .declaration :: read fuel opened rest
      | none => [.bad]
    | '!' :: _ => [.bad]
    | '?' :: 'x' :: 'm' :: 'l' :: rest =>
      let isDeclaration := rest.head?.any fun c => isBlank c || c == '?'
      past (if isDeclaration then .declaration else .other) ['?', '>'] rest
    | '?' :: rest => past .other ['?', '>'] rest
    | '/' :: rest =>
      match readUntil '>' rest with
      | none => [.bad]
      | some (name, rest) =>
        match opened with
        | [] => [.bad]
        | top :: opened =>
          if trimEnd name = top then .closing (localName top) :: read fuel opened rest else [.bad]
    | rest =>
      match readTag none rest with
      | none => [.bad]
      | some (content, rest) =>
        if content.getLast? = some '/' then
          let name := content.dropLast.takeWhile fun c => !isBlank c
          .opening (localName name) :: .closing (localName name) :: read fuel opened rest
        else
          let name := content.takeWhile fun c => !isBlank c
          .opening (localName name) :: read fuel (name :: opened) rest
  | fuel + 1, opened, '&' :: rest =>
    match readUntil ';' (rest.takeWhile fun c => c != '&' && c != '<') with
    | some (name, _) => .reference name :: read fuel opened (rest.drop (name.length + 1))
    | none => [.bad]
  | fuel + 1, opened, cs =>
    let content := cs.takeWhile fun c => c != '<' && c != '&'
    .text content :: read fuel opened (cs.drop content.length)

/-- The tokens of a text. A mark of the byte order at its start is passed over. -/
def tokens (cs : List Char) : List Token :=
  let cs := match cs with
    | '\uFEFF' :: rest => rest
    | _ => cs
  read (cs.length + 1) [] cs

/-- The value of a run of digits. -/
def digitsValue (base : Nat) (digits : List Char) : Option Nat :=
  if digits.isEmpty then none
  else digits.foldlM (fun value c =>
    let d := if c.isDigit then c.toNat - '0'.toNat
      else if 'a' ≤ c ∧ c ≤ 'f' then c.toNat - 'a'.toNat + 10
      else if 'A' ≤ c ∧ c ≤ 'F' then c.toNat - 'A'.toNat + 10
      else base
    if d < base then some (value * base + d) else none) 0

/-- The character that a reference stands for. -/
def resolve (name : List Char) : Option Char :=
  match name with
  | '#' :: digits =>
    let number := match digits with
      | 'x' :: digits => digitsValue 16 digits
      | _ => digitsValue 10 digits
    number.bind fun n => if n ≠ 0 ∧ n.isValidChar then some (Char.ofNat n) else none
  | ['l', 't'] => some '<'
  | ['g', 't'] => some '>'
  | ['a', 'm', 'p'] => some '&'
  | ['a', 'p', 'o', 's'] => some '\''
  | ['q', 'u', 'o', 't'] => some '"'
  | _ => none

end ScopePaint.Data.Markup
