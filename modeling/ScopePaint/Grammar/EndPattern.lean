import ScopePaint.Regex.Search

/-!
The ends of regions.

Where a region ends may depend on how it began: an end may refer to the groups that the begin
captured, by a backslash and a digit from 1 to 9. Such an end is compiled anew for each begin, with
the captured texts in place of the references. In these texts all characters that could mean
something in a pattern are escaped.
-/

set_option autoImplicit false

namespace ScopePaint

/-- The end of a region. -/
inductive EndPattern where
  | fixed (regex : Regex)
  | backReferencing (source : String)

namespace EndPattern

/-- The group that a digit refers to. -/
def groupOf? (c : Char) : Option Nat :=
  if '1' ≤ c ∧ c ≤ '9' then some (c.toNat - '0'.toNat) else none

/-- Whether an end refers to captured texts: a backslash stands before a digit from 1 to 9. -/
def isBackReferencing : List Char → Bool
  | [] => false
  | [_] => false
  | c :: d :: rest => (c == '\\' && (groupOf? d).isSome) || isBackReferencing (d :: rest)

/-- Put texts in the place of references. -/
def substitute (text : Nat → List Char) : List Char → List Char
  | [] => []
  | [c] => [c]
  | c :: d :: rest =>
    if c = '\\' then
      match groupOf? d with
      | some group => text group ++ substitute text rest
      | none => c :: substitute text (d :: rest)
    else c :: substitute text (d :: rest)

/-- Whether a character may mean something in a pattern. -/
def isMeta (c : Char) : Bool :=
  ['\\', '.', '+', '*', '?', '(', ')', '|', '[', ']', '\x7b', '\x7d', '^', '$', '#', '&', '-',
    '~'].contains c

/-- A pattern that matches a text and nothing else. -/
def escape (cs : List Char) : List Char :=
  cs.flatMap fun c => if isMeta c then ['\\', c] else [c]

/-- Compile the end of a region, unless it depends on the begin. -/
def compile (source : String) : Except Regex.PatternError EndPattern :=
  if isBackReferencing source.toList then .ok (backReferencing source)
  else (Regex.compile source).map fixed

/-- The end as it was written. -/
def source : EndPattern → String
  | fixed regex => regex.source
  | backReferencing source => source

/-- The text that a group of a match captured; it is empty if the group took no part. -/
def captured (line : List Char) (m : Match) (group : Nat) : List Char :=
  ((m.group group).bind fun range => Text.slice? line range).getD []

/-- The end of a region that began with a match in a line. -/
def resolve (e : EndPattern) (line : List Char) (opening : Match) :
    Except Regex.PatternError Regex :=
  match e with
  | fixed regex => .ok regex
  | backReferencing source =>
    Regex.compile (String.ofList
      (substitute (fun group => escape (captured line opening group)) source.toList))

end EndPattern

end ScopePaint
