import ScopePaint.Regex.CharSet

/-!
The parts of a regular expression.

`Node` is the form that the matcher runs. Options have been worked into it: a case-insensitive
letter is a set, a dot that matches line ends is the set of all characters. Sequences and
alternatives are binary, closed by `empty`, so that every function here recurses on the node alone;
calls of groups are the only way back up, and functions that follow them take a table of what they
know about each group.
-/

set_option autoImplicit false

namespace ScopePaint.Regex

/-- Tests of a position that consume nothing. -/
inductive Anchor where
  | lineStart | lineEnd | textStart | textEnd | textEndOrLastNewline | searchStart
  | wordBoundary (negated ascii : Bool)
  | clusterBoundary (negated : Bool)
  deriving DecidableEq, Repr

/-- How often a loop runs: at least `lower` times, at most `upper` times, as often or as rarely as
possible. -/
structure Bounds where
  lower : Nat
  upper : Option Nat
  greedy : Bool
  deriving DecidableEq, Repr

/-- The group a call names. -/
inductive CallTarget where
  | number (index : Nat)
  | name (name : List Char)
  deriving DecidableEq, Repr

/-- A reference back to what a group matched. With several groups of one name the last of them that
took part counts; `level` asks for the match made at a given depth of calls. -/
structure BackReference where
  groups : List Nat
  named : Bool
  ignoreCase : Bool
  level : Option Int
  deriving DecidableEq, Repr

/-- A regular expression. -/
inductive Node where
  | empty
  | fail
  | literal (c : Char)
  | set (set : CharSet)
  | anchor (anchor : Anchor)
  | seq (first second : Node)
  | alt (first second : Node)
  | loop (bounds : Bounds) (watched : List Nat) (body : Node)
  | group (index : Nat) (body : Node)
  | atomic (body : Node)
  | ahead (negated : Bool) (body : Node)
  | behind (negated : Bool) (shortest : Nat) (longest : Option Nat) (body : Node)
  | backref (ref : BackReference)
  | tested (ref : BackReference)
  | choose (condition yes no : Node)
  | call (target : CallTarget)
  | keep
  | within (absent body : Node)
  | stopBefore (absent : Node)
  | clearStop
  deriving DecidableEq, Repr

/-- The fewest and the most characters a node can match; `none` stands for no limit. -/
structure Lengths where
  shortest : Nat
  longest : Option Nat
  deriving DecidableEq, Repr

namespace Lengths

/-- The lengths of the empty match. -/
def zero : Lengths := ⟨0, some 0⟩

/-- The lengths of one character. -/
def one : Lengths := ⟨1, some 1⟩

/-- Nothing is known. -/
def unknown : Lengths := ⟨0, none⟩

/-- The lengths of one match behind another. -/
def add (a b : Lengths) : Lengths :=
  ⟨a.shortest + b.shortest, a.longest.bind fun m => b.longest.map fun n => m + n⟩

/-- The lengths of either match. -/
def sup (a b : Lengths) : Lengths :=
  ⟨min a.shortest b.shortest, a.longest.bind fun m => b.longest.map fun n => max m n⟩

/-- The lengths of repeated matches. -/
def repeated (bounds : Bounds) (body : Lengths) : Lengths :=
  ⟨bounds.lower * body.shortest,
    match bounds.upper, body.longest with
    | some n, some m => some (n * m)
    | none, some 0 => some 0
    | _, _ => none⟩

end Lengths

namespace Node

/-- One node after the other. -/
def seqOf : List Node → Node
  | [] => empty
  | [n] => n
  | n :: rest => seq n (seqOf rest)

/-- Any of the nodes, the earlier ones preferred. -/
def altOf : List Node → Node
  | [] => fail
  | [n] => n
  | n :: rest => alt n (altOf rest)

/-- How many constructors a node has. -/
def size : Node → Nat
  | seq a b | alt a b | within a b => a.size + b.size + 1
  | choose c a b => c.size + a.size + b.size + 1
  | loop _ _ n | group _ n | atomic n | ahead _ n | behind _ _ _ n | stopBefore n => n.size + 1
  | _ => 1

/-- The groups of a node with their bodies. -/
def groups : Node → List (Nat × Node)
  | seq a b | alt a b | within a b => a.groups ++ b.groups
  | choose c a b => c.groups ++ a.groups ++ b.groups
  | group i n => (i, n) :: n.groups
  | loop _ _ n | atomic n | ahead _ n | behind _ _ _ n | stopBefore n => n.groups
  | _ => []

/-- The back-references of a node, tests among them. -/
def backrefs : Node → List BackReference
  | seq a b | alt a b | within a b => a.backrefs ++ b.backrefs
  | choose c a b => c.backrefs ++ a.backrefs ++ b.backrefs
  | group _ n | loop _ _ n | atomic n | ahead _ n | behind _ _ _ n | stopBefore n => n.backrefs
  | backref ref | tested ref => [ref]
  | _ => []

/-- The calls of a node. -/
def calls : Node → List CallTarget
  | seq a b | alt a b | within a b => a.calls ++ b.calls
  | choose c a b => c.calls ++ a.calls ++ b.calls
  | group _ n | loop _ _ n | atomic n | ahead _ n | behind _ _ _ n | stopBefore n => n.calls
  | call target => [target]
  | _ => []

/-- The lengths of a node, given those of the groups it refers to. -/
def lengths (called : CallTarget → Lengths) : Node → Lengths
  | literal _ | set _ => .one
  | seq a b => (a.lengths called).add (b.lengths called)
  | alt a b => (a.lengths called).sup (b.lengths called)
  | loop bounds _ n => .repeated bounds (n.lengths called)
  | group _ n | atomic n | within _ n => n.lengths called
  | backref ref =>
    match ref.groups.map fun i => called (.number i) with
    | [] => .unknown
    | l :: rest => ⟨(rest.foldl Lengths.sup l).shortest, none⟩
  | choose c a b => ((c.lengths called).add (a.lengths called)).sup (b.lengths called)
  | call target => called target
  | empty | fail | anchor _ | ahead _ _ | behind _ _ _ _ | tested _ | keep | stopBefore _
  | clearStop => .zero

/-- The kind of a loop for the purpose of merging it with a loop around it: `?`, `*`, `+`, `??`,
`*?` and `+?` are 0 to 5. -/
def loopKind : Bounds → Option Nat
  | ⟨0, some 1, true⟩ => some 0
  | ⟨0, none, true⟩ => some 1
  | ⟨1, none, true⟩ => some 2
  | ⟨0, some 1, false⟩ => some 3
  | ⟨0, none, false⟩ => some 4
  | ⟨1, none, false⟩ => some 5
  | _ => none

/-- What becomes of a loop directly inside another loop. -/
inductive Merged where
  | inner | asTyped | both (outer inner : Bounds) | one (bounds : Bounds)

/-- How a loop of kind `inner` merges with a loop of kind `outer` around it. -/
def mergedLoops (inner outer : Nat) : Merged :=
  let star : Merged := .one ⟨0, none, true⟩
  let lazyStar : Merged := .one ⟨0, none, false⟩
  let lazyOption : Bounds := ⟨0, some 1, false⟩
  let lazyOptionOfPlus : Merged := .both lazyOption ⟨1, none, true⟩
  match inner, outer with
  | 0, 0 => .inner
  | 0, 1 | 0, 2 => star
  | 0, 3 => .one lazyOption
  | 0, 4 => lazyStar
  | 1, 3 | 1, 4 => lazyOptionOfPlus
  | 1, _ => .inner
  | 2, 0 | 2, 1 => star
  | 2, 4 => lazyOptionOfPlus
  | 2, 2 | 2, 5 => .inner
  | 3, 0 | 3, 3 => .inner
  | 3, _ => lazyStar
  | 4, _ => .inner
  | 5, 1 => .both ⟨0, some 1, true⟩ ⟨1, none, false⟩
  | 5, 2 | 5, 5 => .inner
  | 5, 3 | 5, 4 => lazyStar
  | _, _ => .asTyped

/-- A loop around a node; two loops directly inside each other become one where that is possible. -/
def looped (bounds : Bounds) (n : Node) : Node :=
  match n with
  | loop inner watched body =>
    match loopKind inner, loopKind bounds with
    | some i, some o =>
      match mergedLoops i o with
      | .inner => n
      | .asTyped => loop bounds [] n
      | .both outer inner' => loop outer [] (loop inner' watched body)
      | .one merged => loop merged watched body
    | some i, none =>
      let bounded : Bool := match bounds.upper with
        | some u => 1 < u && bounds.greedy && (i == 1 || i == 2)
        | none => false
      if bounded then loop { bounds with upper := some (max 1 bounds.lower) } [] n
      else loop bounds [] n
    | _, _ =>
      if inner.upper = some inner.lower ∧ bounds.upper = some bounds.lower then
        loop { bounds with
          lower := inner.lower * bounds.lower, upper := some (inner.lower * bounds.lower) } []
          body
      else loop bounds [] n
  | _ => loop bounds [] n

/-- Give the groups new numbers; a group without one no longer captures. -/
def renumber (number : Nat → Option Nat) : Node → Node
  | seq a b => seq (a.renumber number) (b.renumber number)
  | alt a b => alt (a.renumber number) (b.renumber number)
  | within a b => within (a.renumber number) (b.renumber number)
  | choose c a b => choose (c.renumber number) (a.renumber number) (b.renumber number)
  | loop bounds watched n =>
    match n, n.renumber number with
    | group _ _, loop inner watched' body => looped bounds (loop inner watched' body)
    | _, n' => loop bounds watched n'
  | group i n =>
    match number i with
    | some j => group j (n.renumber number)
    | none => n.renumber number
  | atomic n => atomic (n.renumber number)
  | ahead negated n => ahead negated (n.renumber number)
  | behind negated shortest longest n => behind negated shortest longest (n.renumber number)
  | stopBefore n => stopBefore (n.renumber number)
  | backref ref => backref { ref with groups := ref.groups.filterMap number }
  | tested ref => tested { ref with groups := ref.groups.filterMap number }
  | n => n

/-- The groups of a node outside its loops that may run empty without end. -/
def ownGroups (called : CallTarget → Lengths) : Node → List Nat
  | seq a b | alt a b | within a b => a.ownGroups called ++ b.ownGroups called
  | choose c a b => c.ownGroups called ++ a.ownGroups called ++ b.ownGroups called
  | group i n => i :: n.ownGroups called
  | loop bounds _ n =>
    if bounds.upper.isNone && (n.lengths called).shortest == 0 then [] else n.ownGroups called
  | atomic n | ahead _ n | behind _ _ _ n | stopBefore n => n.ownGroups called
  | _ => []

/-- Complete a node: each look-behind gets the lengths of its body, and each loop that may run
empty without end watches the groups in it that something outside refers to. `count` is how often a
group is referred to in the whole expression. -/
def complete (called : CallTarget → Lengths) (count : Nat → Nat) : Node → Node
  | seq a b => seq (a.complete called count) (b.complete called count)
  | alt a b => alt (a.complete called count) (b.complete called count)
  | within a b => within (a.complete called count) (b.complete called count)
  | choose c a b =>
    choose (c.complete called count) (a.complete called count) (b.complete called count)
  | loop bounds _ n =>
    let inside := n.backrefs.flatMap (·.groups)
    let watched :=
      if bounds.upper.isNone && (n.lengths called).shortest == 0 then
        (n.ownGroups called).filter fun i => inside.count i < count i
      else []
    loop bounds watched (n.complete called count)
  | group i n => group i (n.complete called count)
  | atomic n => atomic (n.complete called count)
  | ahead negated n => ahead negated (n.complete called count)
  | behind negated _ _ n =>
    let l := n.lengths called
    behind negated l.shortest l.longest (n.complete called count)
  | stopBefore n => stopBefore (n.complete called count)
  | n => n

end Node

end ScopePaint.Regex
