import ScopePaint.Style.Value
import ScopePaint.Text.Bytes

/-!
Texts with styling on stretches of them.

For each kind of styling a text has a layer: stretches of the text that do not overlap, in order,
with a value each. Setting a value replaces what its layer held in the same range and leaves other
layers alone, so the last write counts for each kind. Ranges count bytes; they may reach outside the
text or be reversed, and are clamped first.
-/

set_option autoImplicit false

namespace ScopePaint

open Text (Span)

/-- A value on a stretch of text. -/
structure Stretch where
  range : Span
  value : StyleValue
  deriving DecidableEq, Repr

/-- The stretches of one kind of styling. -/
abbrev Layer := List Stretch

namespace Layer

/-- What is left of a stretch outside of a range. -/
def cutStretch (r : Span) (s : Stretch) : List Stretch :=
  if s.range.stop ≤ r.start ∨ r.stop ≤ s.range.start then [s]
  else
    (if s.range.start < r.start then [⟨⟨s.range.start, r.start⟩, s.value⟩] else [])
      ++ (if r.stop < s.range.stop then [⟨⟨r.stop, s.range.stop⟩, s.value⟩] else [])

/-- Take everything in a range away. A stretch around the range falls into two, even if the range is
empty. -/
def cut (r : Span) (l : Layer) : Layer := l.flatMap (cutStretch r)

/-- Put a value on a range. -/
def put (r : Span) (v : StyleValue) (l : Layer) : Layer :=
  let rest := cut r l
  let before := rest.takeWhile fun s => s.range.start < r.start
  before ++ ⟨r, v⟩ :: rest.drop before.length

/-- The value at an offset. -/
def get? (offset : Nat) (l : Layer) : Option StyleValue :=
  match l.dropWhile fun s => s.range.stop ≤ offset with
  | [] => none
  | s :: _ => if s.range.contains offset then some s.value else none

end Layer

/-- A stretch of text over which no styling changes, with its values in the order of their kinds. -/
structure Run where
  range : Span
  text : List Char
  values : List StyleValue
  deriving DecidableEq, Repr

/-- The value of a kind of styling on a run. -/
def Run.get? (key : StyleKey) (r : Run) : Option StyleValue :=
  r.values.find? fun v => v.key = key

/-- A text with its styling. -/
structure StyledText where
  text : List Char
  layers : List (StyleKey × Layer)
  deriving Repr

namespace StyledText

/-- A text without any styling. -/
def ofChars (cs : List Char) : StyledText := ⟨cs, []⟩

/-- A text without any styling. -/
def ofString (s : String) : StyledText := ofChars s.toList

/-- How many bytes the text takes. -/
def length (t : StyledText) : Nat := Text.byteLength t.text

/-- The layer of a kind of styling. -/
def layer (t : StyledText) (key : StyleKey) : Layer := (t.layers.lookup key).getD []

/-- Change the layer of a kind of styling. -/
def modifyLayer (t : StyledText) (key : StyleKey) (f : Layer → Layer) : StyledText :=
  { t with layers := (key, f (t.layer key)) :: t.layers.filter fun entry => entry.1 ≠ key }

/-- Append text without styling. -/
def append (t : StyledText) (cs : List Char) : StyledText := { t with text := t.text ++ cs }

/-- The part of a range that lies in the text; it is empty if the range is reversed. -/
def clamp (t : StyledText) (r : Span) : Span :=
  let stop := min r.stop t.length
  ⟨min r.start stop, stop⟩

/-- Set a value over a range. -/
def set (t : StyledText) (r : Span) (v : StyleValue) : StyledText :=
  let r := t.clamp r
  if r.isEmpty then t else t.modifyLayer v.key (Layer.put r v)

/-- Remove the values of one kind over a range. -/
def remove (t : StyledText) (key : StyleKey) (r : Span) : StyledText :=
  t.modifyLayer key (Layer.cut (t.clamp r))

/-- Remove all values over a range. -/
def clear (t : StyledText) (r : Span) : StyledText :=
  let r := t.clamp r
  if r.isEmpty then t
  else { t with layers := t.layers.map fun entry => (entry.1, Layer.cut r entry.2) }

/-- The value of a kind of styling at an offset. -/
def get? (t : StyledText) (key : StyleKey) (offset : Nat) : Option StyleValue :=
  Layer.get? offset (t.layer key)

/-- All values at an offset, in the order of their kinds. -/
def valuesAt (t : StyledText) (offset : Nat) : List StyleValue :=
  StyleKey.all.filterMap fun key => t.get? key offset

/-- The paragraph style at an offset. -/
def paragraphAt? (t : StyledText) (offset : Nat) : Option ParagraphStyle :=
  match t.get? .paragraphStyle offset with
  | some (.paragraphStyle style) => some style
  | _ => none

/-- The foreground color at an offset. -/
def foregroundAt? (t : StyledText) (offset : Nat) : Option Color :=
  match t.get? .foreground offset with
  | some (.foreground color) => some color
  | _ => none

/-- The ends of all stretches. -/
def bounds (t : StyledText) : List Nat :=
  StyleKey.all.flatMap fun key => (t.layer key).flatMap fun s => [s.range.start, s.range.stop]

/-- Put an offset into an ascending list, unless it is there. -/
def insertBound (n : Nat) : List Nat → List Nat
  | [] => [n]
  | m :: rest => if n < m then n :: m :: rest else if n = m then m :: rest
    else m :: insertBound n rest

/-- The offsets at which a range has to be cut, its own ends among them, in ascending order. -/
def cuts (t : StyledText) (r : Span) : List Nat :=
  let inside := t.bounds.filter fun n => r.start < n ∧ n < r.stop
  (inside.foldl (fun ns n => insertBound n ns) [r.start])
    ++ (if r.start < r.stop then [r.stop] else [])

/-- The run between two cuts; there is none if they do not lie between characters. -/
def run? (t : StyledText) (r : Span) : Option Run :=
  (Text.slice? t.text r).map fun text => ⟨r, text, t.valuesAt r.start⟩

/-- The ranges between neighbours. -/
def between : List Nat → List Span
  | a :: b :: rest => ⟨a, b⟩ :: between (b :: rest)
  | _ => []

/-- Split a range into runs. It cannot be split if a character lies across the end of a run. -/
def runs? (t : StyledText) (r : Span) : Option (List Run) :=
  (between (t.cuts (t.clamp r))).mapM t.run?

/-- The runs of the whole text. -/
def allRuns? (t : StyledText) : Option (List Run) := t.runs? ⟨0, t.length⟩

end StyledText

end ScopePaint
