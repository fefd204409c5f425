import ScopePaint.Regex.Class

/-!
The text of a regular expression.

Reading goes by recursive descent. `readAlternatives` reads up to the end of the text or to a
closing parenthesis, `readBranch` up to a bar as well, and `readItem` one item with its
quantifiers. Every call passes on less fuel than it got; `fuelFor` gives enough for a whole text.

An option written alone, as in `a(?i)b|c`, rules the rest of the group it stands in, bars included.
-/

set_option autoImplicit false

namespace ScopePaint.Regex

/-- The groups met so far: how many there are, and the numbers that each name stands for. -/
structure Tally where
  count : Nat := 0
  names : List (List Char × List Nat) := []
  deriving DecidableEq, Repr

namespace Tally

/-- Count one more group. -/
def add (t : Tally) : Tally := { t with count := t.count + 1 }

/-- The numbers of the groups with a name. -/
def numbersOf (t : Tally) (name : List Char) : List Nat :=
  match t.names.find? fun entry => entry.1 = name with
  | some entry => entry.2
  | none => []

/-- Count one more group under a name. -/
def addNamed (t : Tally) (name : List Char) : Tally :=
  let index := t.count + 1
  let names :=
    if t.names.any fun entry => entry.1 = name then
      t.names.map fun entry => if entry.1 = name then (name, entry.2 ++ [index]) else entry
    else t.names ++ [(name, [index])]
  { count := index, names := names }

/-- The group that a number counted from here stands for. -/
def absolute (t : Tally) (offset : Int) : Int :=
  if 0 < offset then t.count + offset else t.count + 1 + offset

end Tally

/-- A part of a branch: a node, or a letter whose case does not matter and that may fold together
with its neighbours. -/
inductive Piece where
  | node (node : Node)
  | letter (c : Char)

/-- The case variants of a character under the options in force. -/
def variantsOf (o : Options) (c : Char) : List Char :=
  let all := Unicode.CaseFolding.variants c
  if o.asciiCase then all.filter fun d => d = c ∨ (d.toNat < 0x80 ∧ c.toNat < 0x80) else all

/-- One character out of a list. -/
def oneOf (cs : List Char) : Node :=
  match cs with
  | [c] => .literal c
  | cs => .set (.ofList cs)

/-- A letter in any case, which may fold to several letters. -/
def letterNode (o : Options) (c : Char) : Node :=
  match Unicode.CaseFolding.fold c with
  | [_] => oneOf (variantsOf o c)
  | folded =>
    if o.insideBehind || o.asciiCase then oneOf (variantsOf o c)
    else .alt (oneOf (Unicode.CaseFolding.unfold folded))
      (.seqOf (folded.map fun d => oneOf (variantsOf o d)))

/-- The characters that fold to the same as some letters together. -/
def joinedVariants (o : Options) (cs : List Char) : List Char :=
  let folded := cs.map Unicode.CaseFolding.fold
  if o.insideBehind || o.asciiCase || folded.any fun f => f.length ≠ 1 then []
  else Unicode.CaseFolding.unfold folded.flatten

/-- Letters in any case, one behind the other; neighbours that one character can stand for are
taken together, from the left. -/
def lettersNode (o : Options) : List Char → List Node
  | [] => []
  | [a] => [letterNode o a]
  | [a, b] =>
    match joinedVariants o [a, b] with
    | [] => [letterNode o a, letterNode o b]
    | joined => [.alt (.seqOf [letterNode o a, letterNode o b]) (oneOf joined)]
  | a :: b :: c :: rest =>
    match joinedVariants o [a, b, c] with
    | [] =>
      match joinedVariants o [a, b] with
      | [] => letterNode o a :: lettersNode o (b :: c :: rest)
      | joined =>
        .alt (.seqOf [letterNode o a, letterNode o b]) (oneOf joined) :: lettersNode o (c :: rest)
    | joined =>
      let pair := fun (x y : Char) => match joinedVariants o [x, y] with
        | [] => Node.fail
        | cs => oneOf cs
      .altOf [.seqOf [letterNode o a, letterNode o b, letterNode o c], oneOf joined,
        .seq (pair a b) (letterNode o c), .seq (letterNode o a) (pair b c)]
        :: lettersNode o rest

/-- The leading letters of some pieces, and the pieces behind them. -/
def leadingLetters : List Piece → List Char × List Piece
  | .letter c :: rest =>
    let (cs, rest) := leadingLetters rest
    (c :: cs, rest)
  | pieces => ([], pieces)

/-- The nodes of the pieces of a branch. -/
def nodesOf (o : Options) : Nat → List Piece → List Node
  | 0, _ => []
  | _ + 1, [] => []
  | fuel + 1, .node n :: rest => n :: nodesOf o fuel rest
  | fuel + 1, .letter c :: rest =>
    let (cs, rest) := leadingLetters rest
    lettersNode o (c :: cs) ++ nodesOf o fuel rest

/-- The node of a branch. -/
def branchNode (o : Options) (pieces : List Piece) : Node :=
  .seqOf (nodesOf o (pieces.length + 1) pieces)

/-- A piece as a node of its own. -/
def Piece.toNode (o : Options) : Piece → Node
  | .node n => n
  | .letter c => letterNode o c

/-- What a piece of text without meaning belongs to, if any. -/
inductive Trivia where
  | none | comment | line
  deriving DecidableEq

/-- Pass over comments and, in extended patterns, blanks. -/
def skipTrivia (extended : Bool) : Trivia → List Char → Except PatternError (List Char)
  | .none, '(' :: '?' :: '#' :: rest => skipTrivia extended .comment rest
  | .none, c :: rest =>
    if extended then
      if c = ' ' ∨ c = '\t' ∨ c = '\n' ∨ c = '\r' ∨ c = '\x0c' then skipTrivia extended .none rest
      else if c = '#' then skipTrivia extended .line rest
      else .ok (c :: rest)
    else .ok (c :: rest)
  | .none, [] => .ok []
  | .comment, [] => .error .endInGroup
  | .comment, '\\' :: _ :: rest => skipTrivia extended .comment rest
  | .comment, ')' :: rest => skipTrivia extended .none rest
  | .comment, _ :: rest => skipTrivia extended .comment rest
  | .line, [] => .ok []
  | .line, '\n' :: rest => skipTrivia extended .none rest
  | .line, _ :: rest => skipTrivia extended .line rest

/-- A quantifier. -/
structure Quantifier where
  bounds : Bounds
  possessive : Bool

/-- The most repetitions that an interval may ask for. -/
def maxRepetitions : Nat := 100000

/-- A bound of an interval: the number at the head of the text, if there is one. -/
def readBound (cs : List Char) : Except PatternError (Option Nat × List Char) :=
  match cs.takeWhile Char.isDigit with
  | [] => .ok (none, cs)
  | digits =>
    let value := valueOf 10 digits
    if maxRepetitions < value then .error .numberTooBig
    else .ok (some value, cs.drop digits.length)

/-- Read the marks behind a quantifier for its being lazy or possessive. -/
def readManner (lower : Nat) (upper : Option Nat) (possessive mayPossess : Bool) (cs : List Char) :
    Quantifier × List Char :=
  match cs with
  | '?' :: rest => (⟨⟨lower, upper, false⟩, false⟩, rest)
  | '+' :: rest =>
    if mayPossess then (⟨⟨lower, upper, true⟩, true⟩, rest)
    else (⟨⟨lower, upper, true⟩, possessive⟩, cs)
  | _ => (⟨⟨lower, upper, true⟩, possessive⟩, cs)

/-- Read an interval, whose opening brace has been read; `none` if the brace stands for itself. With
its bounds in the wrong order an interval is possessive, and one of a single number is never
lazy. -/
def readInterval (cs : List Char) : Except PatternError (Option (Quantifier × List Char)) := do
  let (low, rest) ← readBound cs
  match rest with
  | ',' :: rest =>
    let (high, rest) ← readBound rest
    match rest with
    | '\x7d' :: rest =>
      match low, high with
      | none, none => return none
      | low, none => return some (readManner (low.getD 0) none false false rest)
      | low, some high =>
        let low := low.getD 0
        if high < low then return some (readManner high (some low) true false rest)
        else return some (readManner low (some high) false false rest)
    | _ => return none
  | '\x7d' :: rest =>
    match low with
    | none => return none
    | some n => return some (⟨⟨n, some n, true⟩, false⟩, rest)
  | _ => return none

/-- Read a quantifier, if the text begins with one. -/
def readQuantifier (cs : List Char) : Except PatternError (Option (Quantifier × List Char)) :=
  match cs with
  | '*' :: rest => .ok (some (readManner 0 none false true rest))
  | '+' :: rest => .ok (some (readManner 1 none false true rest))
  | '?' :: rest => .ok (some (readManner 0 (some 1) false true rest))
  | '\x7b' :: rest => readInterval rest
  | _ => .ok none

/-- A node under a quantifier. -/
def quantified (q : Quantifier) (n : Node) : Node :=
  if q.bounds.lower = 1 ∧ q.bounds.upper = some 1 then n
  else
    let n := Node.looped q.bounds n
    if q.possessive then .atomic n else n

/-- Apply the quantifiers that follow a piece. -/
def readQuantifiers (o : Options) : Nat → Piece → List Char →
    Except PatternError (Piece × List Char)
  | 0, _, _ => .error .tooDeep
  | fuel + 1, piece, cs => do
    let cs ← skipTrivia o.extended .none cs
    match ← readQuantifier cs with
    | none => return (piece, cs)
    | some (q, rest) => readQuantifiers o fuel (.node (quantified q (piece.toNode o))) rest

/-- A character of the pattern that stands for itself. -/
def charPiece (o : Options) (c : Char) : Piece :=
  if o.ignoreCase then .letter c else .node (.literal c)

/-- A character given by its code. The codes of surrogates are in no text. -/
def codeNode (code : Nat) : Except PatternError Node :=
  if 0x10FFFF < code then .error .invalidCodePoint
  else if 0xD800 ≤ code ∧ code < 0xE000 then .ok .fail
  else .ok (.literal (Char.ofNat code))

/-- A character given by its code, where case may not matter. -/
def codePiece (o : Options) (code : Nat) : Except PatternError Piece := do
  match ← codeNode code with
  | .literal c => return charPiece o c
  | n => return .node n

/-- A line end of any kind, never cut in two. -/
def anyNewline : Node :=
  .atomic (.alt (.seq (.literal '\r') (.literal '\n'))
    (.set (.union (.range 0xA 0xD) (.union (.range 0x85 0x85) (.range 0x2028 0x2029)))))

/-- One grapheme cluster. -/
def cluster : Node :=
  .atomic (.seq (.set .any)
    (.loop ⟨0, none, true⟩ [] (.seq (.anchor (.clusterBoundary true)) (.set .any))))

/-- The group numbers that a reference stands for. -/
def resolveRef (t : Tally) (ref : NameRef) : Except PatternError (List Nat × Bool) :=
  match ref with
  | .absolute n => if n = 0 then .error .unknownGroup else .ok ([n], false)
  | .relative offset =>
    let n := t.absolute offset
    if n ≤ 0 then .error .unknownGroup else .ok ([n.toNat], false)
  | .name name =>
    match t.numbersOf name with
    | [] => .error .unknownGroup
    | numbers => .ok (numbers, true)

/-- The group that a call stands for. -/
def resolveCall (t : Tally) (ref : NameRef) : Except PatternError CallTarget :=
  match ref with
  | .absolute n => .ok (.number n)
  | .relative offset =>
    let n := t.absolute offset
    if n < 0 then .error .unknownGroup else .ok (.number n.toNat)
  | .name name => .ok (.name name)

/-- The largest number of a back-reference. -/
def maxBackReference : Nat := 1000

/-- A backslash in front of digits: a back-reference if there are so many groups or only one digit,
else a character given in base eight, else the digit itself. -/
def readDigitEscape (o : Options) (t : Tally) (c : Char) (rest : List Char) :
    Except PatternError (Piece × List Char) :=
  let (number, behind) := readNumber (c :: rest)
  let index := match number with
    | some n => if n ≤ maxBackReference ∧ (n ≤ t.count ∨ n ≤ 9) then n else 0
    | none => 0
  if c ≠ '0' ∧ index ≠ 0 then
    .ok (.node (.backref ⟨[index], false, o.ignoreCase, none⟩), behind)
  else if c = '8' ∨ c = '9' then .ok (charPiece o c, rest)
  else
    let (digits, behind) := takeUpTo isOctalDigit 3 (c :: rest)
    let byte := valueOf 8 digits
    if 0xFF < byte then .error .numberTooBig
    else do
      let (code, behind) ← readBytes byte behind
      return (.node (← codeNode code), behind)

/-- The pieces of the code points of an escape. -/
def codePieces (o : Options) (entries : List CodeEntry) : Except PatternError (List Piece) :=
  entries.mapM fun entry => match entry with
    | .code value => codePiece o value
    | .dash => .error .invalidCodePoint

/-- Read an escape, whose backslash has been read. All pieces but the last are complete; the last
may be quantified. -/
def readEscape (o : Options) (t : Tally) (cs : List Char) :
    Except PatternError (List Piece × List Char) :=
  let single := fun (n : Node) (rest : List Char) =>
    (.ok ([.node n], rest) : Except PatternError (List Piece × List Char))
  let asciiBoundary := o.asciiWord || o.asciiNames
  match cs with
  | [] => .error .endAtEscape
  | c :: rest =>
    match typeSet? o c with
    | some set => single (.set set) rest
    | none =>
      match c, rest with
      | 'b', _ => single (.anchor (.wordBoundary false asciiBoundary)) rest
      | 'B', _ => single (.anchor (.wordBoundary true asciiBoundary)) rest
      | 'y', _ => single (.anchor (.clusterBoundary false)) rest
      | 'Y', _ => single (.anchor (.clusterBoundary true)) rest
      | 'A', _ => single (.anchor .textStart) rest
      | 'Z', _ => single (.anchor .textEndOrLastNewline) rest
      | 'z', _ => single (.anchor .textEnd) rest
      | 'G', _ => single (.anchor .searchStart) rest
      | 'K', _ => single .keep rest
      | 'R', _ => single anyNewline rest
      | 'N', _ => single (.set .notNewline) rest
      | 'O', _ => single (.set .any) rest
      | 'X', _ => single cluster rest
      | 'p', '\x7b' :: rest => do
        let (set, rest) ← readProperty o false rest
        single (.set set) rest
      | 'P', '\x7b' :: rest => do
        let (set, rest) ← readProperty o true rest
        single (.set set) rest
      | 'k', opening :: rest =>
        if opening = '<' ∨ opening = '\'' then do
          let (ref, level, rest) ← readLevelRef (closingOf opening) rest
          let (groups, named) ← resolveRef t ref
          single (.backref ⟨groups, named, o.ignoreCase, level⟩) rest
        else .ok ([charPiece o 'k'], opening :: rest)
      | 'g', opening :: rest =>
        if opening = '<' ∨ opening = '\'' then do
          let (ref, rest) ← readNameRef (closingOf opening) rest
          single (.call (← resolveCall t ref)) rest
        else .ok ([charPiece o 'g'], opening :: rest)
      | 'x', [] => .ok ([charPiece o 'x'], [])
      | 'u', [] => .ok ([charPiece o 'u'], [])
      | 'x', '\x7b' :: _ => do
        match ← readBracedCodes 16 8 isHexDigit false rest with
        | some (entries, rest) => return (← codePieces o entries, rest)
        | none => return ([charPiece o 'x'], rest)
      | 'o', '\x7b' :: _ => do
        match ← readBracedCodes 8 11 isOctalDigit false rest with
        | some (entries, rest) => return (← codePieces o entries, rest)
        | none => return ([charPiece o 'o'], rest)
      | 'x', _ => do
        let (digits, rest) := takeUpTo isHexDigit 2 rest
        let (code, rest) ← readBytes (valueOf 16 digits) rest
        single (← codeNode code) rest
      | 'u', _ =>
        let (digits, rest) := takeUpTo isHexDigit 4 rest
        if digits.length = 4 then do
          let piece ← codePiece o (valueOf 16 digits)
          return ([piece], rest)
        else .error .invalidCodePoint
      | _, _ =>
        if c.isDigit then do
          let (piece, rest) ← readDigitEscape o t c rest
          return ([piece], rest)
        else do
          let (code, rest) ← readEscapedCode cs
          let piece ← codePiece o code
          return ([piece], rest)

/-- The node of a bracket expression. If case does not matter, characters of the set that fold to
several letters are matched by those letters, too. -/
def classNode (o : Options) (negated : Bool) (set : CharSet) : Node :=
  if o.ignoreCase then
    if negated then .set (.compl (.anyCase set))
    else
      let folded := (Unicode.CaseFolding.expansions.filter fun entry =>
        set.contains (Char.ofNat entry.1)).map (·.2)
      let spelled := folded.map fun codes =>
        Node.seqOf (codes.map fun code => oneOf (variantsOf o (Char.ofNat code)))
      if o.insideBehind || o.asciiCase then .set (.anyCase set)
      else .altOf (.set (.anyCase set) :: spelled)
  else .set (set.negateIf negated)

/-- Read the letters of a group that set options, up to a colon or a closing parenthesis. The
result tells whether the group has a body. -/
def readOptions : Bool → Options → List Char → Except PatternError (Options × Bool × List Char)
  | _, o, ':' :: rest => .ok (o, true, rest)
  | _, o, ')' :: rest => .ok (o, false, rest)
  | _, o, '-' :: rest => readOptions true o rest
  | off, o, 'x' :: rest => readOptions off { o with extended := !off } rest
  | off, o, 'i' :: rest => readOptions off { o with ignoreCase := !off } rest
  | off, o, 'm' :: rest => readOptions off { o with dotAll := !off } rest
  | off, o, 'W' :: rest => readOptions off { o with asciiWord := !off } rest
  | off, o, 'D' :: rest => readOptions off { o with asciiDigit := !off } rest
  | off, o, 'S' :: rest => readOptions off { o with asciiSpace := !off } rest
  | off, o, 'P' :: rest => readOptions off { o with asciiNames := !off } rest
  | false, o, 'C' :: rest => readOptions false { o with plainGroups := true } rest
  | false, o, 'I' :: rest => readOptions false { o with asciiCase := true } rest
  | false, o, 'L' :: rest => readOptions false o rest
  | false, o, 'y' :: '\x7b' :: 'g' :: '\x7d' :: rest => readOptions false o rest
  | false, o, 'y' :: '\x7b' :: 'w' :: '\x7d' :: rest => readOptions false o rest
  | _, _, [] => .error .endInGroup
  | _, _, _ => .error .unknownGroupOption

/-- The text behind the first run of `count` closing braces. -/
def behindBraces (count : Nat) : List Char → Option (List Char)
  | [] => none
  | c :: rest =>
    if (c :: rest).take count = List.replicate count '\x7d' then some ((c :: rest).drop count)
    else behindBraces count rest

/-- Pass over a callout with contents, up to the closing parenthesis of its group. -/
def skipCallout (cs : List Char) : Except PatternError (List Char) :=
  let count := (cs.takeWhile (· == '\x7b')).length
  match behindBraces count (cs.drop count) with
  | none => .error .endInGroup
  | some rest =>
    let rest := match rest with
      | '[' :: tag => (tag.dropWhile (· != ']')).drop 1
      | rest => rest
    let rest := match rest with
      | 'X' :: rest | '<' :: rest | '>' :: rest => rest
      | rest => rest
    match rest with
    | ')' :: rest => .ok rest
    | _ => .error .unknownCallout

/-- What stands at one place of a branch: pieces, of which the last may be quantified, or options
for the rest of the group. -/
inductive Item where
  | pieces (pieces : List Piece)
  | options (o : Options)

/-- Anything that does not begin with a match of `absent`. -/
def tempered (absent : Node) : Node :=
  .loop ⟨0, none, true⟩ [] (.seq (.ahead true absent) (.set .any))

/-- The parenthesis that ends a group. -/
def closeGroup (cs : List Char) : Except PatternError (List Char) :=
  match cs with
  | ')' :: rest => .ok rest
  | _ => .error .unmatchedParenthesis

/-- What a group is, as its first characters tell: one with a body between options, out of which
`build` makes a node; a limit on where matches may end; a conditional; options for the rest of the
group around it; or a node without a body. -/
inductive Opening where
  | body (o : Options) (t : Tally) (build : Node → Node)
  | limit
  | conditional
  | options (o : Options)
  | node (node : Node)

/-- Read what opens a group, behind its parenthesis. -/
def readOpening (o : Options) (t : Tally) (cs : List Char) :
    Except PatternError (Opening × List Char) :=
  let behind := { o with insideBehind := true }
  match cs with
  | [] => .error .unmatchedParenthesis
  | ['?'] => .error .endInGroup
  | '?' :: ':' :: rest => .ok (.body o t id, rest)
  | '?' :: '=' :: rest => .ok (.body o t (.ahead false), rest)
  | '?' :: '!' :: rest => .ok (.body o t (.ahead true), rest)
  | '?' :: '>' :: rest => .ok (.body o t .atomic, rest)
  | '?' :: '<' :: '=' :: rest => .ok (.body behind t (.behind false 0 none), rest)
  | '?' :: '<' :: '!' :: rest => .ok (.body behind t (.behind true 0 none), rest)
  | '?' :: '<' :: rest => do
    let (name, rest) ← readGroupName '>' rest
    return (.body o (t.addNamed name) (.group (t.count + 1)), rest)
  | '?' :: '\'' :: rest => do
    let (name, rest) ← readGroupName '\'' rest
    return (.body o (t.addNamed name) (.group (t.count + 1)), rest)
  | '?' :: '~' :: '|' :: ')' :: rest => .ok (.node .clearStop, rest)
  | '?' :: '~' :: '|' :: rest => .ok (.limit, rest)
  | '?' :: '~' :: rest => .ok (.body o t tempered, rest)
  | '?' :: '\x7b' :: rest => do
    let rest ← skipCallout ('\x7b' :: rest)
    return (.node .empty, rest)
  | '?' :: '(' :: rest => .ok (.conditional, rest)
  | '?' :: rest => do
    let (inner, hasBody, rest) ← readOptions false o rest
    if hasBody then return (.body inner t id, rest) else return (.options inner, rest)
  | '*' :: 'F' :: 'A' :: 'I' :: 'L' :: ')' :: rest => .ok (.node .fail, rest)
  | '*' :: _ => .error .unknownCallout
  | rest =>
    if o.plainGroups then .ok (.body o t id, rest)
    else .ok (.body o t.add (.group (t.count + 1)), rest)

/-- Read the condition of a conditional as a test of groups; `none` if it is a pattern. -/
def readTest (t : Tally) (cs : List Char) : Except PatternError (Option (Node × List Char)) :=
  match cs with
  | [] => .error .endInGroup
  | c :: body =>
    if c = '<' ∨ c = '\'' then do
      let (ref, level, rest) ← readLevelRef (closingOf c) body
      let (groups, named) ← resolveRef t ref
      let rest ← closeGroup rest
      return some (.tested ⟨groups, named, false, level⟩, rest)
    else if c.isDigit ∨ c = '-' ∨ c = '+' then
      match readLevelRef ')' cs with
      | .ok (ref, level, rest) => do
        let (groups, named) ← resolveRef t ref
        return some (.tested ⟨groups, named, false, level⟩, rest)
      | .error _ => .ok none
    else .ok none

mutual

/-- Read alternatives up to the end of the text or a closing parenthesis. -/
def readAlternatives : Nat → Options → Tally → List Char →
    Except PatternError (List Node × Tally × List Char)
  | 0, _, _, _ => .error .tooDeep
  | fuel + 1, o, t, cs => do
    let (pieces, t, rest) ← readBranch fuel o t cs
    let first := branchNode o pieces
    match rest with
    | '|' :: rest =>
      let (others, t, rest) ← readAlternatives fuel o t rest
      return (first :: others, t, rest)
    | _ => return ([first], t, rest)

/-- Read one alternative. -/
def readBranch : Nat → Options → Tally → List Char →
    Except PatternError (List Piece × Tally × List Char)
  | 0, _, _, _ => .error .tooDeep
  | fuel + 1, o, t, cs => do
    let cs ← skipTrivia o.extended .none cs
    match cs with
    | [] => return ([], t, [])
    | '|' :: _ | ')' :: _ => return ([], t, cs)
    | _ =>
      let (item, t, rest) ← readItem fuel o t cs
      match item with
      | .options inner =>
        let (nodes, t, rest) ← readAlternatives fuel inner t rest
        return ([.node (.altOf nodes)], t, rest)
      | .pieces pieces =>
        match pieces.getLast? with
        | none => readBranch fuel o t rest
        | some last =>
          let (last, rest) ← readQuantifiers o (rest.length + 1) last rest
          let (more, t, rest) ← readBranch fuel o t rest
          return (pieces.dropLast ++ last :: more, t, rest)

/-- Read one item of a branch, without its quantifiers. -/
def readItem : Nat → Options → Tally → List Char → Except PatternError (Item × Tally × List Char)
  | 0, _, _, _ => .error .tooDeep
  | fuel + 1, o, t, cs => do
    match cs with
    | [] => return (.pieces [], t, [])
    | '(' :: rest =>
      let (opening, rest) ← readOpening o t rest
      readGroup fuel o t opening rest
    | '[' :: rest =>
      let (negated, set, rest) ← readClass o (3 * rest.length + 3) rest
      return (.pieces [.node (classNode o negated set)], t, rest)
    | '.' :: rest =>
      return (.pieces [.node (.set (if o.dotAll then .any else .notNewline))], t, rest)
    | '^' :: rest => return (.pieces [.node (.anchor .lineStart)], t, rest)
    | '$' :: rest => return (.pieces [.node (.anchor .lineEnd)], t, rest)
    | '\\' :: rest =>
      let (pieces, rest) ← readEscape o t rest
      return (.pieces pieces, t, rest)
    | c :: rest =>
      match ← readQuantifier cs with
      | some _ => .error .nothingToRepeat
      | none => return (.pieces [charPiece o c], t, rest)

/-- Read the rest of a group, behind its opening. -/
def readGroup : Nat → Options → Tally → Opening → List Char →
    Except PatternError (Item × Tally × List Char)
  | 0, _, _, _, _ => .error .tooDeep
  | _ + 1, _, t, .node n, cs => return (.pieces [.node n], t, cs)
  | _ + 1, _, t, .options o, cs => return (.options o, t, cs)
  | fuel + 1, _, _, .body o t build, cs => do
    let (nodes, t, rest) ← readAlternatives fuel o t cs
    let rest ← closeGroup rest
    return (.pieces [.node (build (.altOf nodes))], t, rest)
  | fuel + 1, o, t, .limit, cs => do
    let (nodes, t, rest) ← readAlternatives fuel o t cs
    let rest ← closeGroup rest
    match nodes with
    | absent :: first :: others =>
      return (.pieces [.node (.within absent (.altOf (first :: others)))], t, rest)
    | nodes => return (.pieces [.node (.stopBefore (.altOf nodes))], t, rest)
  | fuel + 1, o, t, .conditional, cs => do
    match ← readTest t cs with
    | some (condition, ')' :: rest) => return (.pieces [.node condition], t, rest)
    | some (condition, rest) => readChoice fuel o t condition rest
    | none =>
      let (nodes, t, rest) ← readAlternatives fuel o t cs
      match ← closeGroup rest with
      | ')' :: _ => .error .invalidCondition
      | rest => readChoice fuel o t (.altOf nodes) rest

/-- Read what follows the condition of a conditional. -/
def readChoice : Nat → Options → Tally → Node → List Char →
    Except PatternError (Item × Tally × List Char)
  | 0, _, _, _, _ => .error .tooDeep
  | _ + 1, _, _, _, [] => .error .endInGroup
  | fuel + 1, o, t, condition, '|' :: rest => do
    let (nodes, t, rest) ← readAlternatives fuel o t rest
    let rest ← closeGroup rest
    return (.pieces [.node (.choose condition .empty (.altOf nodes))], t, rest)
  | fuel + 1, o, t, condition, cs => do
    let (nodes, t, rest) ← readAlternatives fuel o t cs
    let rest ← closeGroup rest
    match nodes with
    | yes :: no :: others =>
      return (.pieces [.node (.choose condition yes (.altOf (no :: others)))], t, rest)
    | nodes => return (.pieces [.node (.choose condition (.altOf nodes) .empty)], t, rest)

end

/-- Enough fuel to read a text. -/
def fuelFor (cs : List Char) : Nat := 5 * cs.length + 10

/-- Read a whole pattern. -/
def readPattern (cs : List Char) : Except PatternError (Node × Tally) := do
  let (nodes, t, rest) ← readAlternatives (fuelFor cs) {} {} cs
  match rest with
  | [] => return (.altOf nodes, t)
  | _ => .error .unmatchedParenthesis

end ScopePaint.Regex
