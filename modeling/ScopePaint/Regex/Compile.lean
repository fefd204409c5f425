import ScopePaint.Regex.Pattern

/-!
From pattern text to an expression that can be run.

Reading a text gives a node and the names of its groups; what remains are the checks that need the
whole expression. If any group has a name, the groups without one do not capture, and references by
number are refused. References and calls have to lead to groups. A call that can come back to its
own group without having consumed anything, or in any case, would never end and is refused. What is
inside a look-behind has to be something that can be looked for backwards.
-/

set_option autoImplicit false

namespace ScopePaint.Regex

/-- An expression ready to run: its root, the number of its groups, what each of them holds
(group 0 is the whole expression), and the group each name stands for. -/
structure Program where
  root : Node
  count : Nat
  groups : List (Nat × Node)
  names : List (List Char × List Nat)
  deriving DecidableEq, Repr

namespace Program

/-- The number of the group a call leads to. -/
def indexOf (names : List (List Char × List Nat)) : CallTarget → Option Nat
  | .number n => some n
  | .name name => (names.find? fun entry => entry.1 = name).bind fun entry => entry.2.head?

/-- The group that a call leads to, as a node to run. -/
def target (p : Program) (call : CallTarget) : Node :=
  match indexOf p.names call with
  | some 0 => p.root
  | some n =>
    match p.groups.find? fun entry => entry.1 = n with
    | some entry => .group n entry.2
    | none => .fail
  | none => .fail

end Program

/-- What is known of the lengths of groups, by their numbers. -/
abbrev LengthTable := List (Nat × Lengths)

/-- The lengths a table gives for a call. -/
def LengthTable.lookup (names : List (List Char × List Nat)) (table : LengthTable)
    (call : CallTarget) : Lengths :=
  match Program.indexOf names call with
  | some n =>
    match table.find? fun entry => entry.1 = n with
    | some entry => entry.2
    | none => .unknown
  | none => .unknown

/-- The lengths of groups, after following calls `depth` deep. -/
def lengthTable (names : List (List Char × List Nat)) (groups : List (Nat × Node)) :
    Nat → LengthTable
  | 0 => []
  | depth + 1 =>
    let table := lengthTable names groups depth
    groups.map fun entry => (entry.1, entry.2.lengths (table.lookup names))

/-- What following calls from a node shows about a group: that it is reached, that it is reached on
every way through the node, and that it is reached before anything was consumed. -/
structure Recursion where
  reached : Bool := false
  always : Bool := false
  atOnce : Bool := false
  deriving Repr

namespace Recursion

/-- What one node behind another shows. -/
def andThen (a b : Recursion) : Recursion :=
  ⟨a.reached || b.reached, a.always || b.always, a.atOnce || b.atOnce⟩

/-- What either of two nodes shows. -/
def orElse (a b : Recursion) : Recursion :=
  ⟨a.reached || b.reached, a.always && b.always, a.atOnce || b.atOnce⟩

/-- Follow the calls of a node to the group `wanted`, through groups not in `open`. `head` tells
that nothing has been consumed yet. -/
def find (groups : Nat → Option Node) (names : List (List Char × List Nat))
    (shortest : Node → Nat) (wanted : Nat) : Nat → List Nat → Bool → Node → Recursion
  | 0, _, _, _ => {}
  | fuel + 1, opened, head, n =>
    let go := find groups names shortest wanted fuel opened
    match n with
    | .seq a b => (go head a).andThen (go (head && shortest a == 0) b)
    | .alt a b => (go head a).orElse (go head b)
    | .loop bounds _ body =>
      if bounds.upper = some 0 then {}
      else
        let r := go head body
        if bounds.lower = 0 then { r with always := false } else r
    | .atomic body | .ahead _ body | .behind _ _ _ body | .stopBefore body => go head body
    | .within absent body => (go head absent).andThen (go head body)
    | .group i body =>
      if i = wanted then ⟨true, true, head⟩
      else if opened.contains i then {}
      else find groups names shortest wanted fuel (i :: opened) head body
    | .call target =>
      match Program.indexOf names target with
      | some i =>
        if i = wanted then ⟨true, true, head⟩
        else if opened.contains i then {}
        else match groups i with
          | some body => find groups names shortest wanted fuel (i :: opened) head body
          | none => {}
      | none => {}
    | .choose c yes no =>
      let first := go head c
      let then_ := go (head && shortest c == 0) yes
      let else_ := go head no
      let both := first.andThen then_
      ⟨both.reached || else_.reached, both.always && else_.always, both.atOnce || else_.atOnce⟩
    | _ => {}

end Recursion

/-- Whether a node can stand in a look-behind: no limits on the end of the match, and in a negated
one no groups either, also not by way of calls. -/
def allowedBehind (hasGroup : CallTarget → Bool) (negated : Bool) : Node → Bool
  | .seq a b | .alt a b => allowedBehind hasGroup negated a && allowedBehind hasGroup negated b
  | .choose c a b =>
    allowedBehind hasGroup negated c && allowedBehind hasGroup negated a
      && allowedBehind hasGroup negated b
  | .group _ n => !negated && allowedBehind hasGroup negated n
  | .loop _ _ n | .atomic n => allowedBehind hasGroup negated n
  | .call target => !(negated && hasGroup target)
  | .stopBefore _ | .clearStop => false
  | _ => true

/-- Whether all look-behinds of a node are allowed. -/
def behindsAllowed (hasGroup : CallTarget → Bool) : Node → Bool
  | .seq a b | .alt a b | .within a b => behindsAllowed hasGroup a && behindsAllowed hasGroup b
  | .choose c a b =>
    behindsAllowed hasGroup c && behindsAllowed hasGroup a && behindsAllowed hasGroup b
  | .group _ n | .loop _ _ n | .atomic n | .ahead _ n | .stopBefore n =>
    behindsAllowed hasGroup n
  | .behind negated _ _ n => allowedBehind hasGroup negated n && behindsAllowed hasGroup n
  | _ => true

/-- The most characters that a look-behind may go back. -/
def maxLookBehind : Nat := 65535

/-- Whether the look-behinds of a completed node stay near enough. -/
def behindsNear : Node → Bool
  | .seq a b | .alt a b | .within a b => behindsNear a && behindsNear b
  | .choose c a b => behindsNear c && behindsNear a && behindsNear b
  | .group _ n | .loop _ _ n | .atomic n | .ahead _ n | .stopBefore n => behindsNear n
  | .behind _ shortest longest n =>
    shortest ≤ maxLookBehind && (longest.all fun l => l ≤ maxLookBehind) && behindsNear n
  | _ => true

/-- How many groups have names. -/
def namedCount (t : Tally) : Nat := (t.names.map fun entry => entry.2.length).foldr (· + ·) 0

/-- The new numbers of groups when those without names do not count. -/
def namedNumber (t : Tally) (i : Nat) : Option Nat :=
  let named := (t.names.flatMap fun entry => entry.2)
  if named.contains i then some ((named.filter fun j => j < i).length + 1) else none

/-- Let the groups without names capture nothing, if some groups have names. -/
def keepNamed (root : Node) (t : Tally) : Except PatternError (Node × Tally) :=
  if namedCount t = 0 then .ok (root, t)
  else if root.backrefs.any fun ref => !ref.named then .error .numberBesideNames
  else if root.calls.any fun call => match call with
      | .number _ => true
      | .name _ => false
    then .error .numberBesideNames
  else
    let renamed := t.names.map fun entry => (entry.1, entry.2.filterMap (namedNumber t))
    .ok (root.renumber (namedNumber t), { count := namedCount t, names := renamed })

/-- Check that references and calls lead to groups. -/
def checkReferences (root : Node) (t : Tally) : Except PatternError Unit :=
  if root.backrefs.any fun ref => ref.groups.any fun i => t.count < i then .error .unknownGroup
  else
    root.calls.forM fun call =>
      match call with
      | .number n => if t.count < n then .error .unknownGroup else .ok ()
      | .name name =>
        match t.numbersOf name with
        | [] => .error .unknownGroup
        | [_] => .ok ()
        | _ => .error .ambiguousCall

/-- Check the recursion of groups. -/
def checkRecursion (root : Node) (t : Tally) (groups : List (Nat × Node))
    (called : CallTarget → Lengths) : Except PatternError Unit :=
  if root.calls.isEmpty then .ok ()
  else
    let body := fun i => (groups.find? fun entry => entry.1 = i).map (·.2)
    let shortest := fun n => (Node.lengths called n).shortest
    let fuel := (groups.length + 1) * (root.size + 2)
    groups.forM fun entry =>
      let r := Recursion.find body t.names shortest entry.1 fuel [] true entry.2
      if r.reached && (r.always || r.atOnce) then .error .endlessRecursion else .ok ()

/-- Compile a pattern. -/
def Program.ofPattern (cs : List Char) : Except PatternError Program := do
  let (root, t) ← readPattern cs
  let (root, t) ← keepNamed root t
  checkReferences root t
  let groups := if root.calls.contains (.number 0) then (0, root) :: root.groups else root.groups
  let called := (lengthTable t.names groups (groups.length + 1)).lookup t.names
  checkRecursion root t groups called
  let hasGroup := fun (target : CallTarget) => match Program.indexOf t.names target with
    | some i => decide (i ≠ 0)
    | none => true
  if behindsAllowed hasGroup root then
    let refs := root.backrefs.flatMap (·.groups)
    let complete := fun (n : Node) => n.complete called fun i => refs.count i
    let root := complete root
    if behindsNear root then
      return ⟨root, t.count, root.groups, t.names⟩
    else .error .invalidLookBehind
  else .error .invalidLookBehind

end ScopePaint.Regex
