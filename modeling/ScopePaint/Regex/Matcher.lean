import ScopePaint.Regex.Compile
import ScopePaint.Unicode.Segment

/-!
Running an expression on a text.

The matcher is a machine with a stack of goals, all of which have to be met from where it stands,
and a stack of choices, to which it goes back when a goal cannot be met. A goal is mostly a node;
the others close what a node opened, such as a group or one turn of a loop. Choices hold whole
states, so going back restores groups and position at once; barriers among them mark where an atomic
group or a look-around began.

A position is a place between two characters, with the characters on both sides. From one start the
machine goes back at most `retryLimit` times; an attempt that would go back once more is given up,
which is neither a match nor none. The steps are bounded as well, by `stepLimit` and one step for each
node of the expression, since an expression that calls its own groups may go on without an end.
-/

set_option autoImplicit false

namespace ScopePaint.Regex

/-- A place in a text: the characters before it, from the last one backwards, those behind it, and
how many come before. -/
structure Cursor where
  before : List Char
  after : List Char
  index : Nat
  deriving DecidableEq, Repr

namespace Cursor

/-- The start of a text. -/
def start (cs : List Char) : Cursor := ⟨[], cs, 0⟩

/-- The place one character to the left. -/
def back (c : Cursor) : Option Cursor :=
  match c.before with
  | [] => none
  | x :: before => some ⟨before, x :: c.after, c.index - 1⟩

/-- The place `n` characters to the left. -/
def backBy : Nat → Cursor → Option Cursor
  | 0, c => some c
  | n + 1, c => c.back.bind (backBy n)

end Cursor

/-- What a group has captured: where it was entered last and where it was left last. -/
structure Capture where
  start : Option Cursor := none
  stop : Option Nat := none
  deriving DecidableEq, Repr

/-- A finished capture, with the depth of calls at which it was made. -/
structure PastCapture where
  level : Nat
  group : Nat
  start : Cursor
  stop : Nat
  deriving Repr

/-- Where the machine stands: its place, the captures, the place that counts as the start of the
match, the place up to which it may read, the depth of calls, and the captures made so far with
their depths. -/
structure State where
  cursor : Cursor
  captures : List Capture
  kept : Nat
  limit : Option Nat
  level : Nat
  past : List PastCapture
  deriving Repr

namespace State

/-- The character behind the place, and the state behind that character. -/
def next (s : State) : Option (Char × State) :=
  match s.cursor.after with
  | [] => none
  | c :: after =>
    if s.limit.any fun l => l ≤ s.cursor.index then none
    else some (c, { s with
      cursor := ⟨c :: s.cursor.before, after, s.cursor.index + 1⟩ })

/-- The captures of a group. -/
def capture (s : State) (group : Nat) : Capture :=
  (s.captures[group]?).getD {}

/-- Enter a group. -/
def openGroup (s : State) (group : Nat) : State :=
  { s with captures := s.captures.set group { s.capture group with start := some s.cursor } }

/-- Leave a group that was entered at `start`; the same group may have been entered and left again
inside it. -/
def closeGroup (s : State) (group : Nat) (start : Cursor) : State :=
  { s with
    captures := s.captures.set group ⟨some start, some s.cursor.index⟩
    past := ⟨s.level, group, start, s.cursor.index⟩ :: s.past }

end State

/-- What remains to be done from where the machine stands. -/
inductive Goal where
  | node (n : Node)
  | closeGroup (group : Nat) (start : Cursor)
  | turn (bounds : Bounds) (watched : List Nat) (body : Node) (count : Nat)
      (entry : Option (Nat × List Capture))
  | commit
  | returnTo (cursor : Cursor)
  | reach (index : Nat)
  | refuse
  | chosen (yes : Node)
  | limitHere (start : Cursor)
  | setLimit (limit : Option Nat)
  | leave
  deriving Repr

/-- A way not taken, or the mark of where an atomic group or look-around began. -/
inductive Choice where
  | resume (state : State) (goals : List Goal)
  | barrier
  deriving Repr

/-- The choices below the last barrier. -/
def belowBarrier : List Choice → List Choice
  | [] => []
  | .barrier :: rest => rest
  | .resume _ _ :: rest => belowBarrier rest

/-- Whether a cursor is at an anchor. `origin` is where the search began. -/
def Anchor.holds (origin : Nat) (c : Cursor) : Anchor → Bool
  | lineStart =>
    match c.before with
    | [] => true
    | x :: _ => x == '\n' && !c.after.isEmpty
  | lineEnd => c.after.isEmpty || c.after.head? == some '\n'
  | textStart => c.before.isEmpty
  | textEnd => c.after.isEmpty
  | textEndOrLastNewline => c.after.isEmpty || c.after == ['\n']
  | searchStart => c.index == origin
  | wordBoundary negated ascii =>
    let isWord := fun (x : Char) =>
      if ascii then x.isAlphanum || x == '_' else Unicode.isWord x
    ((c.before.head?.any isWord) != (c.after.head?.any isWord)) != negated
  | clusterBoundary negated =>
    let boundary := match c.after with
      | [] => true
      | x :: _ => Unicode.Segment.isBoundary c.before x
    boundary != negated

/-- The text that a capture holds, and whether there is one. -/
def Capture.text? (c : Capture) : Option (List Char) :=
  match c.start, c.stop with
  | some start, some stop => some (start.after.take (stop - start.index))
  | _, _ => none

/-- Read the characters of `text`, or characters with the same foldings. -/
def State.readText (ignoreCase : Bool) : List Char → State → Option State
  | [], s => some s
  | c :: text, s =>
    match s.next with
    | none => none
    | some (d, s) =>
      if c = d ∨ (ignoreCase ∧ Unicode.CaseFolding.fold c = Unicode.CaseFolding.fold d) then
        readText ignoreCase text s
      else none

/-- The texts that a back-reference may stand for, the preferred one first. -/
def BackReference.texts (ref : BackReference) (s : State) : List (List Char) :=
  match ref.level with
  | none => ref.groups.reverse.filterMap fun i => (s.capture i).text?
  | some offset =>
    let level := (s.level : Int) + offset
    match s.past.find? fun p => (p.level : Int) = level ∧ ref.groups.contains p.group with
    | some p => [p.start.after.take (p.stop - p.start.index)]
    | none => []

/-- How a turn of a loop that consumed nothing counts. -/
inductive EmptyTurn where
  | progress | stuck | dead

/-- Judge a turn that consumed nothing by the groups that the loop watches: a group captured for the
first time, or one that held some text before, is progress; one that was empty elsewhere makes the
turn fail. -/
def judgeTurn (s : State) (entry : List Capture) (watched : List Nat) : EmptyTurn :=
  let changed := (watched.filter fun i => s.capture i ≠ (entry[i]?).getD {}).map fun i =>
    (entry[i]?).getD {}
  let grew := changed.any fun c => match c.start, c.stop with
    | some start, some stop => decide (start.index ≠ stop)
    | _, _ => true
  if grew then .progress
  else if changed.any fun c => c.stop ≠ some s.cursor.index then .dead
  else .stuck

/-- The result of a step: go on, or go back to one of the choices. -/
inductive Move where
  | go (state : State) (goals : List Goal) (choices : List Choice)
  | back (choices : List Choice)

/-- Go on with the last choice, which is not a way back: it has not been tried before. -/
def Move.enter : List Choice → Move
  | .resume s goals :: choices => .go s goals choices
  | choices => .back choices

/-- Begin a turn of a loop, or end the loop. -/
def beginTurn (bounds : Bounds) (watched : List Nat) (body : Node) (count : Nat) (s : State)
    (goals : List Goal) (choices : List Choice) : Move :=
  if count < bounds.lower then
    .go s (.node body :: .turn bounds watched body (count + 1) none :: goals) choices
  else if bounds.upper.any fun upper => upper ≤ count then .go s goals choices
  else
    let again := Goal.node body
      :: .turn bounds watched body (count + 1) (some (s.cursor.index, s.captures)) :: goals
    if bounds.greedy then .go s again (.resume s goals :: choices)
    else .go s goals (.resume s again :: choices)

/-- End a turn of a loop. A turn that consumed nothing ends the loop. -/
def endTurn (bounds : Bounds) (watched : List Nat) (body : Node) (count : Nat)
    (entry : Option (Nat × List Capture)) (s : State) (goals : List Goal) (choices : List Choice) :
    Move :=
  match entry with
  | none => beginTurn bounds watched body count s goals choices
  | some (index, captures) =>
    if index = s.cursor.index then
      match judgeTurn s captures watched with
      | .progress => beginTurn bounds watched body count s goals choices
      | .stuck => .go s goals choices
      | .dead => .back choices
    else beginTurn bounds watched body count s goals choices

/-- The ways to look behind: from the places between `shortest` and `longest` characters back, the
nearest first. -/
def behindStarts (shortest : Nat) (longest : Option Nat) (c : Cursor) : List Cursor :=
  match c.backBy shortest with
  | none => []
  | some first =>
    let more := match longest with
      | some l => l - shortest
      | none => first.index
    go more first
where
  go : Nat → Cursor → List Cursor
    | 0, c => [c]
    | n + 1, c =>
      match c.back with
      | none => [c]
      | some earlier => c :: go n earlier

/-- Meet a node. -/
def stepNode (p : Program) (origin : Nat) (n : Node) (s : State) (goals : List Goal)
    (choices : List Choice) : Move :=
  match n with
  | .empty => .go s goals choices
  | .fail => .back choices
  | .literal c =>
    match s.next with
    | some (d, s) => if c = d then .go s goals choices else .back choices
    | none => .back choices
  | .set set =>
    match s.next with
    | some (d, s) => if set.contains d then .go s goals choices else .back choices
    | none => .back choices
  | .anchor a => if a.holds origin s.cursor then .go s goals choices else .back choices
  | .seq a b => .go s (.node a :: .node b :: goals) choices
  | .alt a b => .go s (.node a :: goals) (.resume s (.node b :: goals) :: choices)
  | .loop bounds watched body => beginTurn bounds watched body 0 s goals choices
  | .group i body => .go (s.openGroup i) (.node body :: .closeGroup i s.cursor :: goals) choices
  | .atomic body => .go s (.node body :: .commit :: goals) (.barrier :: choices)
  | .ahead false body =>
    .go s (.node body :: .commit :: .returnTo s.cursor :: goals) (.barrier :: choices)
  | .ahead true body =>
    .go s (.node body :: .refuse :: []) (.barrier :: .resume s goals :: choices)
  | .behind negated shortest longest body =>
    let last : List Goal := if negated then [.refuse] else .commit :: goals
    let ways := (behindStarts shortest longest s.cursor).map fun c =>
      Choice.resume { s with cursor := c } (.node body :: .reach s.cursor.index :: last)
    if negated then .enter (ways ++ .barrier :: .resume s goals :: choices)
    else .enter (ways ++ .barrier :: choices)
  | .backref ref =>
    match (ref.texts s).findSome? fun text => s.readText ref.ignoreCase text with
    | some s => .go s goals choices
    | none => .back choices
  | .tested ref => if (ref.texts s).isEmpty then .back choices else .go s goals choices
  | .choose condition yes no =>
    .go s (.node condition :: .chosen yes :: goals)
      (.barrier :: .resume s (.node no :: goals) :: choices)
  | .call target => .go { s with level := s.level + 1 } (.node (p.target target) :: .leave :: goals)
      choices
  | .keep => .go { s with kept := s.cursor.index } goals choices
  | .within absent body =>
    .go s (.node (.atomic (tempered absent)) :: .limitHere s.cursor :: .node body
      :: .setLimit s.limit :: goals) choices
  | .stopBefore absent =>
    .go s (.node (.atomic (tempered absent)) :: .limitHere s.cursor :: goals) choices
  | .clearStop => .go { s with limit := none } goals choices

/-- Meet a goal. -/
def step (p : Program) (origin : Nat) (g : Goal) (s : State) (goals : List Goal)
    (choices : List Choice) : Move :=
  match g with
  | .node n => stepNode p origin n s goals choices
  | .closeGroup i start => .go (s.closeGroup i start) goals choices
  | .turn bounds watched body count entry =>
    endTurn bounds watched body count entry s goals choices
  | .commit => .go s goals (belowBarrier choices)
  | .returnTo cursor => .go { s with cursor := cursor } goals choices
  | .reach index => if s.cursor.index = index then .go s goals choices else .back choices
  | .refuse => .back ((belowBarrier choices).drop 1)
  | .chosen yes => .go s (.node yes :: goals) ((belowBarrier choices).drop 1)
  | .limitHere start => .go { s with limit := some s.cursor.index, cursor := start } goals choices
  | .setLimit limit => .go { s with limit := limit } goals choices
  | .leave => .go { s with level := s.level - 1 } goals choices

/-- Go back to the last choice. -/
def backtrack : List Choice → Option (State × List Goal × List Choice)
  | [] => none
  | .barrier :: rest => backtrack rest
  | .resume s goals :: rest => some (s, goals, rest)

/-- Why an attempt is given up: it has gone back too often, or taken too many steps. -/
inductive SearchError where
  | retryLimit
  | stepLimit
  deriving DecidableEq, Repr

/-- Run the machine until all goals are met or no choice is left. It may take `fuel` steps and go
back `retries` times; to find no choice left is to go back, too. -/
def run (p : Program) (origin : Nat) :
    (fuel retries : Nat) → State → List Goal → List Choice → Except SearchError (Option State)
  | 0, _, _, _, _ => .error .stepLimit
  | _ + 1, _, s, [], _ => .ok (some s)
  | fuel + 1, retries, s, g :: goals, choices =>
    match step p origin g s goals choices with
    | .go s goals choices => run p origin fuel retries s goals choices
    | .back choices =>
      match retries with
      | 0 => .error .retryLimit
      | retries + 1 =>
        match backtrack choices with
        | none => .ok none
        | some (s, goals, choices) => run p origin fuel retries s goals choices

/-- How often an attempt may go back. -/
def retryLimit : Nat := 10000000

/-- How many steps an attempt may take, beyond one for each part of the expression. -/
def stepLimit : Nat := Nat.pow 2 60

/-- Try to match from one place. The search began at the index `origin`. -/
def Program.matchAt (p : Program) (origin : Nat) (c : Cursor) : Except SearchError (Option State) :=
  run p origin (stepLimit + 2 * p.root.size) retryLimit
    ⟨c, List.replicate (p.count + 1) {}, c.index, none, 0, []⟩ [.node p.root] []

end ScopePaint.Regex
