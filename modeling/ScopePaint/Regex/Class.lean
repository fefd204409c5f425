import ScopePaint.Regex.Escape

/-!
Bracket expressions.

A bracket expression is read token by token: characters, ranges, character types, named classes,
nested bracket expressions and intersections. `ClassReading` holds what has been collected and the
character that may still turn out to begin a range.
-/

set_option autoImplicit false

namespace ScopePaint.Regex

/-- A token of a bracket expression. -/
inductive ClassToken where
  | char (c : Char)
  | code (value : Nat)
  | set (set : CharSet)
  | dash
  | opening
  | intersection
  | closing

/-- Where the reading of a bracket expression stands: at its start or behind an intersection,
behind a character or class, behind the dash of a range, or behind a complete range. -/
inductive ClassState where
  | start | value | range | complete
  deriving DecidableEq, Repr

/-- What has been read of a bracket expression. -/
structure ClassReading where
  set : CharSet := .empty
  factor : Option CharSet := none
  state : ClassState := .start
  last : Option Nat := none

namespace ClassReading

/-- Add the range of two code points. -/
def addRange (r : ClassReading) (first last : Nat) : ClassReading :=
  { r with set := .union r.set (.range first last) }

/-- Add the character that was kept back. -/
def flush (r : ClassReading) : ClassReading :=
  match r.state, r.last with
  | .value, some code => r.addRange code code
  | _, _ => r

/-- Read a character. -/
def addCode (r : ClassReading) (code : Nat) : Except PatternError ClassReading :=
  match r.state with
  | .range =>
    match r.last with
    | some first =>
      if code < first then .error .emptyRange
      else .ok { r.addRange first code with state := .complete, last := some code }
    | none => .error .rangeBehindClass
  | _ => .ok { r.flush with state := .value, last := some code }

/-- Read a character type or a named class. -/
def addSet (r : ClassReading) (set : CharSet) : Except PatternError ClassReading :=
  match r.state with
  | .range => .error .classAsRangeEnd
  | _ =>
    let r := r.flush
    .ok { r with set := .union r.set set, state := .value, last := none }

/-- Read a nested bracket expression. -/
def addNested (r : ClassReading) (set : CharSet) : ClassReading :=
  let r := r.flush
  { r with set := .union r.set set, state := .complete }

/-- What has been read so far, with all factors of the intersection. -/
def total (r : ClassReading) : CharSet :=
  let r := r.flush
  match r.factor with
  | some factor => .inter factor r.set
  | none => r.set

/-- Read the sign of an intersection. -/
def intersect (r : ClassReading) : ClassReading :=
  { set := .empty, factor := some r.total, state := .start, last := none }

end ClassReading

/-- Whether `:]` follows before a closing bracket, escaped characters passed over. -/
def hasClassNameEnd : List Char → Bool
  | [] => false
  | ':' :: ']' :: _ => true
  | ':' :: rest => hasClassNameEnd rest
  | ']' :: _ => false
  | '\\' :: _ :: rest => hasClassNameEnd rest
  | ['\\'] => false
  | _ :: rest => hasClassNameEnd rest

/-- Whether a name of at most twenty characters ends in `:]` here. -/
def endsAsClassName : Nat → List Char → Bool
  | _, [] => false
  | _, ':' :: ']' :: _ => true
  | _, ':' :: _ => false
  | _, ']' :: _ => false
  | 0, _ => false
  | n + 1, _ :: rest => endsAsClassName n rest

/-- The named class behind `[:`, or nothing if no such name stands there. -/
def readClassName (o : Options) (cs : List Char) :
    Except PatternError (Option (CharSet × List Char)) :=
  let (negated, body) := match cs with
    | '^' :: rest => (true, rest)
    | _ => (false, cs)
  let known := if body.length < 7 then none
    else CharSet.posixNames.find? fun name => name.toList.isPrefixOf body
  match known with
  | some name =>
    match body.drop name.length, CharSet.ofPosixName? name with
    | ':' :: ']' :: rest, some set =>
      let asciiOnly := o.asciiNames || (o.asciiWord && name == "word")
        || (o.asciiDigit && name == "digit") || (o.asciiSpace && name == "space")
      .ok (some ((set.asciiIf asciiOnly).negateIf negated, rest))
    | _, _ => .error .unknownClassName
  | none => if endsAsClassName 20 body then .error .unknownClassName else .ok none

/-- Tokens for the code points of an escape. -/
def codeTokens (entries : List CodeEntry) : List ClassToken :=
  entries.map fun entry => match entry with
    | .code value => .code value
    | .dash => .dash

/-- The tokens of an escape in a bracket expression, its backslash read. -/
def readClassEscape (o : Options) (cs : List Char) :
    Except PatternError (List ClassToken × List Char) :=
  match cs with
  | [] => .error .endAtEscape
  | c :: rest =>
    match typeSet? o c with
    | some set => .ok ([.set set], rest)
    | none =>
      match c, rest with
      | 'p', '\x7b' :: rest => do
        let (set, rest) ← readProperty o false rest
        return ([.set set], rest)
      | 'P', '\x7b' :: rest => do
        let (set, rest) ← readProperty o true rest
        return ([.set set], rest)
      | 'x', '\x7b' :: _ => do
        match ← readBracedCodes 16 8 isHexDigit true rest with
        | some (entries, rest) => return (codeTokens entries, rest)
        | none => return ([.char 'x'], rest)
      | 'o', '\x7b' :: _ => do
        match ← readBracedCodes 8 11 isOctalDigit true rest with
        | some (entries, rest) => return (codeTokens entries, rest)
        | none => return ([.char 'o'], rest)
      | 'x', [] => .ok ([.char 'x'], [])
      | 'u', [] => .ok ([.char 'u'], [])
      | 'u', _ =>
        let (digits, rest) := takeUpTo isHexDigit 4 rest
        if digits.length = 4 then .ok ([.code (valueOf 16 digits)], rest)
        else .error .invalidCodePoint
      | _, _ =>
        match byteEscape? ('\\' :: cs) with
        | some (byte, rest) =>
          if 0xFF < byte then .error .numberTooBig
          else do
            let (code, rest) ← readBytes byte rest
            return ([.code code], rest)
        | none => do
          let (code, rest) ← readEscapedCode cs
          return ([.code code], rest)

/-- The next tokens of a bracket expression. -/
def readClassTokens (o : Options) (cs : List Char) :
    Except PatternError (List ClassToken × List Char) :=
  match cs with
  | [] => .error .endInClass
  | ']' :: rest => .ok ([.closing], rest)
  | '-' :: rest => .ok ([.dash], rest)
  | '\\' :: rest => readClassEscape o rest
  | '[' :: ':' :: rest =>
    if hasClassNameEnd rest then do
      match ← readClassName o rest with
      | some (set, rest) => return ([.set set], rest)
      | none => return ([.char '['], ':' :: rest)
    else .ok ([.opening], ':' :: rest)
  | '[' :: rest => .ok ([.opening], rest)
  | '&' :: '&' :: rest => .ok ([.intersection], rest)
  | c :: rest => .ok ([.char c], rest)

/-- Whether a dash in front of this token stands for itself. -/
def ClassToken.endsRange : ClassToken → Bool
  | .closing | .intersection => true
  | _ => false

mutual

/-- Read a bracket expression up to its closing bracket; its opening bracket has been read. The
result says whether the expression is negated and what it lists. -/
def readClass (o : Options) : Nat → List Char →
    Except PatternError (Bool × CharSet × List Char)
  | 0, _ => .error .tooDeep
  | fuel + 1, cs =>
    let (negated, body) := match cs with
      | '^' :: rest => (true, rest)
      | _ => (false, cs)
    match body with
    | ']' :: rest =>
      if rest.contains ']' then do
        let r ← ({} : ClassReading).addCode ']'.toNat
        let (set, rest) ← readClassBody o fuel r [] rest
        return (negated, set, rest)
      else .error .emptyClass
    | _ => do
      let (set, rest) ← readClassBody o fuel {} [] body
      return (negated, set, rest)

/-- Read on in a bracket expression, first from the tokens that have been read already. -/
def readClassBody (o : Options) : Nat → ClassReading → List ClassToken → List Char →
    Except PatternError (CharSet × List Char)
  | 0, _, _, _ => .error .tooDeep
  | fuel + 1, r, tokens, cs => do
    match tokens with
    | [] =>
      let (tokens, rest) ← readClassTokens o cs
      readClassBody o fuel r tokens rest
    | .char c :: tokens => readClassBody o fuel (← r.addCode c.toNat) tokens cs
    | .code value :: tokens =>
      if 0x10FFFF < value ∧ r.state ≠ .range then .error .invalidCodePoint
      else readClassBody o fuel (← r.addCode value) tokens cs
    | .set set :: tokens => readClassBody o fuel (← r.addSet set) tokens cs
    | .closing :: _ => return (r.total, cs)
    | .intersection :: tokens => readClassBody o fuel r.intersect tokens cs
    | .opening :: tokens =>
      let (negated, set, rest) ← readClass o fuel cs
      readClassBody o fuel (r.addNested (set.negateIf negated)) tokens rest
    | .dash :: tokens =>
      let (tokens, rest) ← if tokens.isEmpty then readClassTokens o cs else pure (tokens, cs)
      match r.state with
      | .value =>
        if tokens.head?.any ClassToken.endsRange then
          readClassBody o fuel (← r.addCode '-'.toNat) tokens rest
        else match r.last with
          | none => .error .rangeBehindClass
          | some _ => readClassBody o fuel { r with state := .range } tokens rest
      | _ => readClassBody o fuel (← r.addCode '-'.toNat) tokens rest

end

end ScopePaint.Regex
