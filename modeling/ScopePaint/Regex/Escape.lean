import ScopePaint.Regex.Node

/-!
The small pieces of pattern text: options, errors, numbers, escaped characters and names.

Readers here take the text that is left and give back what they read with the text behind it.
-/

set_option autoImplicit false

namespace ScopePaint.Regex

/-- Why a text is not a regular expression. -/
inductive PatternError where
  | endAtEscape
  | endInGroup
  | endInClass
  | emptyClass
  | emptyRange
  | rangeBehindClass
  | classAsRangeEnd
  | unknownClassName
  | unknownProperty
  | unmatchedParenthesis
  | nothingToRepeat
  | numberTooBig
  | invalidCodePoint
  | invalidControl
  | unknownGroupOption
  | invalidGroupName
  | unknownGroup
  | ambiguousCall
  | numberBesideNames
  | endlessRecursion
  | invalidLookBehind
  | invalidCondition
  | unknownCallout
  | tooDeep
  deriving DecidableEq, Repr

/-- The options in force at a place of a pattern. -/
structure Options where
  ignoreCase : Bool := false
  dotAll : Bool := false
  extended : Bool := false
  asciiWord : Bool := false
  asciiDigit : Bool := false
  asciiSpace : Bool := false
  asciiNames : Bool := false
  asciiCase : Bool := false
  plainGroups : Bool := false
  insideBehind : Bool := false
  deriving DecidableEq, Repr

/-- Whether a character is a digit of base eight. -/
def isOctalDigit (c : Char) : Bool := '0' ≤ c && c ≤ '7'

/-- Whether a character is a digit of base sixteen. -/
def isHexDigit (c : Char) : Bool :=
  c.isDigit || ('a' ≤ c && c ≤ 'f') || ('A' ≤ c && c ≤ 'F')

/-- At most `most` leading characters with a property, and the rest. -/
def takeUpTo (p : Char → Bool) : Nat → List Char → List Char × List Char
  | 0, cs => ([], cs)
  | _ + 1, [] => ([], [])
  | n + 1, c :: cs =>
    if p c then
      let (taken, rest) := takeUpTo p n cs
      (c :: taken, rest)
    else ([], c :: cs)

/-- The value of a run of digits in a base. -/
def valueOf (base : Nat) (digits : List Char) : Nat :=
  digits.foldl (fun value c => value * base + Unicode.hexDigitValue c) 0

/-- The largest number that a pattern can hold. -/
def maxNumber : Nat := 2147483647

/-- The leading decimal digits with their value; `none` if the value is too big. -/
def readNumber (cs : List Char) : Option Nat × List Char :=
  let digits := cs.takeWhile Char.isDigit
  let value := valueOf 10 digits
  (if value ≤ maxNumber then some value else none, cs.dropWhile Char.isDigit)

/-- The code of a control character behind a backslash, or of the character itself. -/
def controlCode (c : Char) : Nat :=
  match c with
  | 'n' => 0xA
  | 't' => 0x9
  | 'r' => 0xD
  | 'f' => 0xC
  | 'a' => 0x7
  | 'b' => 0x8
  | 'e' => 0x1B
  | 'v' => 0xB
  | c => c.toNat

/-- The code that an escape of the last resort stands for: a meta or control character, or a
character for itself. -/
def readEscapedCode : List Char → Except PatternError (Nat × List Char)
  | [] => .error .endAtEscape
  | ['M'] | ['M', '-'] => .error .invalidControl
  | 'M' :: '-' :: '\\' :: rest => do
    let (code, rest) ← readEscapedCode rest
    return ((code &&& 0xFF) ||| 0x80, rest)
  | 'M' :: '-' :: c :: rest => .ok ((c.toNat &&& 0xFF) ||| 0x80, rest)
  | 'M' :: _ => .error .invalidControl
  | ['C'] | ['C', '-'] | ['c'] => .error .invalidControl
  | 'C' :: '-' :: '?' :: rest | 'c' :: '?' :: rest => .ok (0x7F, rest)
  | 'C' :: '-' :: '\\' :: rest => do
    let (code, rest) ← readEscapedCode rest
    return (code &&& 0x9F, rest)
  | 'C' :: '-' :: c :: rest => .ok (c.toNat &&& 0x9F, rest)
  | 'C' :: _ => .error .invalidControl
  | 'c' :: '\\' :: rest => do
    let (code, rest) ← readEscapedCode rest
    return (code &&& 0x9F, rest)
  | 'c' :: c :: rest => .ok (c.toNat &&& 0x9F, rest)
  | c :: rest => .ok (controlCode c, rest)

/-- An entry between the braces of a code point escape: a code point or a dash. -/
inductive CodeEntry where
  | code (value : Nat)
  | dash
  deriving DecidableEq, Repr

/-- Whether a character separates the code points of an escape. -/
def isCodeSeparator (c : Char) : Bool := c == ' ' || c == '\n'

/-- Read code points up to the closing brace. `most` bounds the digits of one of them, and dashes
may stand between them in a bracket expression only. -/
def readCodes (base most : Nat) (isDigit : Char → Bool) (dashes : Bool) :
    Nat → List Char → Except PatternError (List CodeEntry × List Char)
  | 0, _ => .error .invalidCodePoint
  | fuel + 1, cs =>
    match cs.dropWhile isCodeSeparator with
    | [] => .error .invalidCodePoint
    | '}' :: rest => .ok ([], rest)
    | c :: rest =>
      if c = '-' ∧ dashes then do
        let (entries, rest) ← readCodes base most isDigit dashes fuel rest
        return (.dash :: entries, rest)
      else
        let (digits, rest) := takeUpTo isDigit most (c :: rest)
        if digits.isEmpty ∨ (rest.head?.any isDigit) then .error .invalidCodePoint
        else if valueOf base digits > 0xFFFFFFFF then .error .invalidCodePoint
        else do
          let (entries, rest) ← readCodes base most isDigit dashes fuel rest
          return (.code (valueOf base digits) :: entries, rest)

/-- Read the code points between braces, behind `\x` or `\o`; `none` if the first character behind
the brace is no digit, so that the escape is none. -/
def readBracedCodes (base most : Nat) (isDigit : Char → Bool) (dashes : Bool) (cs : List Char) :
    Except PatternError (Option (List CodeEntry × List Char)) :=
  match cs with
  | '\x7b' :: rest =>
    match rest with
    | c :: _ =>
      if isDigit c then do
        let result ← readCodes base most isDigit dashes (rest.length + 1) rest
        return some result
      else .ok none
    | [] => .ok none
  | _ => .ok none

/-- How a reference names its group. -/
inductive NameRef where
  | absolute (index : Nat)
  | relative (offset : Int)
  | name (name : List Char)
  deriving DecidableEq, Repr

/-- The character that closes a name opened by a given character. -/
def closingOf (opening : Char) : Char :=
  if opening = '<' then '>' else if opening = '(' then ')' else opening

/-- The number a name stands for, where only digits may follow its first character. -/
def numberOfName (digits : List Char) : Except PatternError Nat :=
  if digits.isEmpty ∨ !digits.all Char.isDigit then .error .invalidGroupName
  else match readNumber digits with
    | (some n, _) => .ok n
    | (none, _) => .error .numberTooBig

/-- The reference written as `text`. -/
def nameRefOf (text : List Char) : Except PatternError NameRef :=
  match text with
  | [] => .error .invalidGroupName
  | '-' :: digits => do
    let n ← numberOfName digits
    if n = 0 then .error .invalidGroupName else return .relative (-(n : Int))
  | '+' :: digits => do
    let n ← numberOfName digits
    if n = 0 then .error .invalidGroupName else return .relative n
  | c :: _ =>
    if c.isDigit then do return .absolute (← numberOfName text)
    else if text.all Unicode.isWord then .ok (.name text)
    else .error .invalidGroupName

/-- The name of a group up to its closing character; it begins with a word character that is no
digit. -/
def readGroupName (closing : Char) (cs : List Char) :
    Except PatternError (List Char × List Char) :=
  let name := cs.takeWhile fun c => c != closing && c != ')'
  match cs.drop name.length with
  | c :: rest =>
    if c ≠ closing then .error .invalidGroupName
    else do
      match ← nameRefOf name with
      | .name name => return (name, rest)
      | _ => .error .invalidGroupName
  | [] => .error .invalidGroupName

/-- A reference to a group, as in a call, up to its closing character. -/
def readNameRef (closing : Char) (cs : List Char) :
    Except PatternError (NameRef × List Char) :=
  let text := cs.takeWhile fun c => c != closing && c != ')'
  match cs.drop text.length with
  | c :: rest =>
    if c ≠ closing then .error .invalidGroupName else do return (← nameRefOf text, rest)
  | [] => .error .invalidGroupName

/-- A reference to a group with an optional depth of calls, such as `name+1`, up to its closing
character. -/
def readLevelRef (closing : Char) (cs : List Char) :
    Except PatternError (NameRef × Option Int × List Char) :=
  match cs with
  | [] => .error .invalidGroupName
  | first :: more =>
    let stops := fun c => c == closing || c == ')' || c == '+' || c == '-'
    let text := first :: more.takeWhile fun c => !stops c
    let signOf := fun (c : Char) (n : Nat) => if c = '-' then -(n : Int) else (n : Int)
    if first = closing then .error .invalidGroupName
    else match cs.drop text.length with
      | [] => .error .invalidGroupName
      | c :: rest =>
        if c = closing then do return (← nameRefOf text, none, rest)
        else if c = ')' then .error .invalidGroupName
        else
          let digits := rest.takeWhile Char.isDigit
          match rest.drop digits.length with
          | d :: rest =>
            if d ≠ closing then .error .invalidGroupName
            else do
              let level ← numberOfName digits
              return (← nameRefOf text, some (signOf c level), rest)
          | [] => .error .invalidGroupName

/-- The name of a property up to its closing brace. -/
def readPropertyName (cs : List Char) : Except PatternError (List Char × List Char) :=
  let name := cs.takeWhile fun c => c != '\x7d' && c != '\x7b' && c != '(' && c != ')' && c != '|'
  match cs.drop name.length with
  | '\x7d' :: rest => .ok (name, rest)
  | _ => .error .unknownProperty

/-- The set of a property written behind `\p` or `\P`, whose opening brace has been read. -/
def readProperty (o : Options) (negated : Bool) (cs : List Char) :
    Except PatternError (CharSet × List Char) := do
  let (negated, cs) := match cs with
    | '^' :: rest => (!negated, rest)
    | _ => (negated, cs)
  let (name, rest) ← readPropertyName cs
  match CharSet.ofProperty? name with
  | none => .error .unknownProperty
  | some set =>
    let plain := CharSet.plainName name
    let asciiOnly := (o.asciiNames && CharSet.posixNames.contains plain)
      || (o.asciiWord && plain == "word") || (o.asciiDigit && plain == "digit")
      || (o.asciiSpace && plain == "space")
    return ((set.asciiIf asciiOnly).negateIf negated, rest)

/-- The set of a character type, `\w`, `\d`, `\s` or `\h`, with the complements in upper case. -/
def typeSet? (o : Options) : Char → Option CharSet
  | 'w' => some (CharSet.word.asciiIf (o.asciiWord || o.asciiNames))
  | 'W' => some (.compl (CharSet.word.asciiIf (o.asciiWord || o.asciiNames)))
  | 'd' => some (CharSet.digit.asciiIf (o.asciiDigit || o.asciiNames))
  | 'D' => some (.compl (CharSet.digit.asciiIf (o.asciiDigit || o.asciiNames)))
  | 's' => some (CharSet.space.asciiIf (o.asciiSpace || o.asciiNames))
  | 'S' => some (.compl (CharSet.space.asciiIf (o.asciiSpace || o.asciiNames)))
  | 'h' => some CharSet.hexDigit
  | 'H' => some (.compl CharSet.hexDigit)
  | _ => none

/-- The byte an escape gives by number, `\x` with up to two hexadecimal digits or a backslash with
up to three octal ones, if `cs` begins with one. -/
def byteEscape? (cs : List Char) : Option (Nat × List Char) :=
  match cs with
  | '\\' :: 'x' :: '\x7b' :: _ => none
  | '\\' :: 'x' :: rest =>
    let (digits, rest) := takeUpTo isHexDigit 2 rest
    some (valueOf 16 digits, rest)
  | '\\' :: c :: rest =>
    if isOctalDigit c then
      let (digits, rest) := takeUpTo isOctalDigit 3 (c :: rest)
      some (valueOf 8 digits, rest)
    else none
  | _ => none

/-- How many bytes a character has that begins with this byte; `none` if no character does. -/
def sequenceLength (byte : Nat) : Option Nat :=
  if byte < 0x80 then some 1
  else if byte < 0xC2 then none
  else if byte < 0xE0 then some 2
  else if byte < 0xF0 then some 3
  else if byte < 0xF5 then some 4
  else none

/-- The code point that bytes spell, of which the first says how many there are. -/
def codeOfBytes (bytes : List Nat) : Option Nat :=
  match bytes with
  | [a] => some a
  | [a, b] => some ((a &&& 0x1F) * 0x40 + (b &&& 0x3F))
  | [a, b, c] =>
    let code := (a &&& 0xF) * 0x1000 + (b &&& 0x3F) * 0x40 + (c &&& 0x3F)
    if code < 0x800 then none else some code
  | [a, b, c, d] =>
    let code := (a &&& 0x7) * 0x40000 + (b &&& 0x3F) * 0x1000 + (c &&& 0x3F) * 0x40 + (d &&& 0x3F)
    if code < 0x10000 ∨ 0x10FFFF < code then none else some code
  | _ => none

/-- Read `count` more bytes given by number, each a continuation of a character. -/
def readContinuation : Nat → List Char → Except PatternError (List Nat × List Char)
  | 0, cs => .ok ([], cs)
  | count + 1, cs =>
    match byteEscape? cs with
    | some (byte, rest) =>
      if 0x80 ≤ byte ∧ byte < 0xC0 then do
        let (bytes, rest) ← readContinuation count rest
        return (byte :: bytes, rest)
      else .error .invalidCodePoint
    | none => .error .invalidCodePoint

/-- The code point whose first byte has been read by number; its other bytes have to follow. -/
def readBytes (first : Nat) (cs : List Char) : Except PatternError (Nat × List Char) :=
  match sequenceLength first with
  | none => .error .invalidCodePoint
  | some count => do
    let (bytes, rest) ← readContinuation (count - 1) cs
    match codeOfBytes (first :: bytes) with
    | some code => return (code, rest)
    | none => .error .invalidCodePoint

end ScopePaint.Regex
