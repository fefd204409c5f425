import Mathlib.Data.List.Chain
import ScopePaint.Proofs.Text.Slices
import ScopePaint.Tokens.TokenLine

/-!
# Tokens in a row

`IsRow line a b tokens` says that tokens lead from the offset `a` to the offset `b` of a line
without gaps and overlaps, that none of them is empty, and that each ends between two characters.
A token line that leads from the start of a line to some offset takes up whatever leads on from
there (`TokenLine.Covers.mergeAll?`), and no two neighbours in it have the same scopes. One that has
come to the end of the line is cut into tokens as `TokenLine.Tiles` says.
-/

set_option autoImplicit false

namespace ScopePaint

open Text (IsBoundary Leads byteLength)

/-- Tokens that lead from an offset of a line to another one. -/
def IsRow (line : List Char) : Nat → Nat → List Token → Prop
  | a, b, [] => a = b
  | a, b, t :: rest =>
    t.range.start = a ∧ a < t.range.stop ∧ IsBoundary line t.range.stop ∧
      IsRow line t.range.stop b rest

section Row

variable {line : List Char} {a b c : Nat} {tokens more : List Token} {t : Token}

/-- A row without tokens ends where it starts. -/
@[simp] theorem isRow_nil : IsRow line a b [] ↔ a = b := Iff.rfl

/-- A row is a token that is not empty and a row behind it. -/
@[simp] theorem isRow_cons : IsRow line a b (t :: tokens) ↔
    t.range.start = a ∧ a < t.range.stop ∧ IsBoundary line t.range.stop ∧
      IsRow line t.range.stop b tokens := Iff.rfl

/-- A token is a row from its start to its stop. -/
theorem isRow_singleton : IsRow line a b [t] ↔
    t.range.start = a ∧ a < b ∧ IsBoundary line b ∧ t.range.stop = b := by
  rw [isRow_cons, isRow_nil]
  constructor
  · rintro ⟨hstart, hlt, hbound, rfl⟩
    exact ⟨hstart, hlt, hbound, rfl⟩
  · rintro ⟨hstart, hlt, hbound, rfl⟩
    exact ⟨hstart, hlt, hbound, rfl⟩

/-- A row is cut in two at any of its tokens. -/
theorem isRow_append : IsRow line a b (tokens ++ more) ↔
    ∃ m, IsRow line a m tokens ∧ IsRow line m b more := by
  induction tokens generalizing a with
  | nil => simp
  | cons t tokens ih =>
    rw [List.cons_append, isRow_cons, ih]
    constructor
    · rintro ⟨hstart, hlt, hbound, m, hfront, hback⟩
      exact ⟨m, isRow_cons.2 ⟨hstart, hlt, hbound, hfront⟩, hback⟩
    · rintro ⟨m, hfront, hback⟩
      obtain ⟨hstart, hlt, hbound, hfront⟩ := isRow_cons.1 hfront
      exact ⟨hstart, hlt, hbound, m, hfront, hback⟩

/-- Two rows one behind the other are a row. -/
theorem IsRow.append (h : IsRow line a b tokens) (h' : IsRow line b c more) :
    IsRow line a c (tokens ++ more) := isRow_append.2 ⟨b, h, h'⟩

/-- A row leads forward. -/
theorem IsRow.le (h : IsRow line a b tokens) : a ≤ b := by
  induction tokens generalizing a with
  | nil => exact Nat.le_of_eq h
  | cons t tokens ih =>
    obtain ⟨-, hlt, -, hrest⟩ := isRow_cons.1 h
    have := ih hrest
    omega

/-- No token of a row is empty, and each lies between characters. -/
theorem IsRow.of_mem (h : IsRow line a b tokens) (ha : IsBoundary line a) (ht : t ∈ tokens) :
    t.range.start < t.range.stop ∧ IsBoundary line t.range.start ∧
      IsBoundary line t.range.stop := by
  induction tokens generalizing a with
  | nil => exact absurd ht (by simp)
  | cons t' tokens ih =>
    obtain ⟨rfl, hlt, hbound, hrest⟩ := isRow_cons.1 h
    rcases List.mem_cons.1 ht with rfl | ht
    · exact ⟨hlt, ha, hbound⟩
    · exact ih hrest hbound ht

/-- A row starts with its first token. -/
theorem IsRow.start_of_head? (h : IsRow line a b tokens) (ht : t ∈ tokens.head?) :
    t.range.start = a := by
  cases tokens with
  | nil => exact absurd ht (by simp)
  | cons t' tokens =>
    obtain rfl : t' = t := by simpa using ht
    exact (isRow_cons.1 h).1

/-- It ends with its last one. -/
theorem IsRow.stop_of_getLast? (h : IsRow line a b tokens) (ht : t ∈ tokens.getLast?) :
    t.range.stop = b := by
  obtain ⟨front, rfl⟩ := List.getLast?_eq_some_iff.1 ht
  obtain ⟨m, -, hlast⟩ := isRow_append.1 h
  exact (isRow_singleton.1 hlast).2.2.2

/-- Neighbours in a row touch each other. -/
theorem IsRow.isChain (h : IsRow line a b tokens) :
    tokens.IsChain fun s t => s.range.stop = t.range.start := by
  induction tokens generalizing a with
  | nil => exact .nil
  | cons t tokens ih =>
    obtain ⟨-, -, -, hrest⟩ := isRow_cons.1 h
    refine List.isChain_cons.2 ⟨fun t' ht' => ?_, ih hrest⟩
    exact (hrest.start_of_head? ht').symm

/-- A row without tokens stays where it is, and one with tokens does not. -/
theorem IsRow.eq_nil_iff (h : IsRow line a b tokens) : tokens = [] ↔ a = b := by
  cases tokens with
  | nil => simpa using h
  | cons t tokens =>
    obtain ⟨-, hlt, -, hrest⟩ := isRow_cons.1 h
    have := hrest.le
    simp only [reduceCtorEq, false_iff]
    omega

/-- Whether tokens are in a row depends on their ranges only. -/
theorem IsRow.of_ranges (h : IsRow line a b tokens)
    (hranges : more.map (·.range) = tokens.map (·.range)) : IsRow line a b more := by
  induction tokens generalizing a more with
  | nil =>
    obtain rfl := List.map_eq_nil_iff.1 hranges
    exact h
  | cons t tokens ih =>
    obtain ⟨t', more, rfl, ht, hmore⟩ := List.map_eq_cons_iff.1 hranges
    obtain ⟨hstart, hlt, hbound, hrest⟩ := isRow_cons.1 h
    exact isRow_cons.2 ⟨ht ▸ hstart, ht ▸ hlt, ht ▸ hbound, ht ▸ ih hrest hmore⟩

/-- The ranges of a row lead where the row leads. -/
theorem IsRow.leads (h : IsRow line a b tokens) : Leads line a b (tokens.map (·.range)) := by
  induction tokens generalizing a with
  | nil => exact h
  | cons t tokens ih =>
    obtain ⟨hstart, hlt, hbound, hrest⟩ := isRow_cons.1 h
    exact ⟨hstart, Nat.le_of_lt hlt, hbound, ih hrest⟩

/-- A line is as long as its tokens lead. -/
theorem IsRow.length {l : TokenLine} (h : IsRow line 0 b l.tokens) : l.length = b := by
  unfold TokenLine.length
  split
  · rename_i hlatest
    rw [TokenLine.tokens, hlatest] at h
    exact isRow_nil.1 h
  · rename_i t rest hlatest
    exact h.stop_of_getLast? (by rw [TokenLine.tokens, hlatest]; simp)

end Row

namespace TokenLine

/-- The tokens of a line lead from its start to an offset, and no two neighbours have the same
scopes. -/
structure Covers (l : TokenLine) (line : List Char) (stop : Nat) : Prop where
  row : IsRow line 0 stop l.tokens
  distinct : l.tokens.IsChain fun s t => s.hasSameScopes t = false

/-- A line that is cut into tokens: they are not empty and lie between characters, the first one
begins where the line does, each of the others where the one before it ends, and the last one ends
where the line does; only the empty line has none. Neighbours never have the same scopes. -/
structure Tiles (l : TokenLine) (line : List Char) : Prop where
  nonempty : ∀ t ∈ l.tokens, t.range.start < t.range.stop
  boundaries : ∀ t ∈ l.tokens, IsBoundary line t.range.start ∧ IsBoundary line t.range.stop
  first : ∀ t ∈ l.tokens.head?, t.range.start = 0
  adjacent : l.tokens.IsChain fun s t => s.range.stop = t.range.start
  last : ∀ t ∈ l.tokens.getLast?, t.range.stop = byteLength line
  empty_iff : l.tokens = [] ↔ line = []
  distinct : l.tokens.IsChain fun s t => s.hasSameScopes t = false

namespace Covers

variable {l : TokenLine} {line : List Char} {a b : Nat}

/-- A line without tokens covers nothing. -/
theorem empty (line : List Char) : TokenLine.empty.Covers line 0 :=
  ⟨isRow_nil.2 rfl, .nil⟩

/-- A line whose tokens cover it is tiled by them. -/
theorem tiles (h : l.Covers line (byteLength line)) : l.Tiles line where
  nonempty := fun _ ht => (h.row.of_mem (Text.isBoundary_zero line) ht).1
  boundaries := fun _ ht => (h.row.of_mem (Text.isBoundary_zero line) ht).2
  first := fun _ ht => h.row.start_of_head? ht
  adjacent := h.row.isChain
  last := fun _ ht => h.row.stop_of_getLast? ht
  empty_iff := by rw [h.row.eq_nil_iff, ← Text.byteLength_eq_zero_iff, eq_comm]
  distinct := h.distinct

/-- The last token of a line that leads somewhere is not empty, so it is not dropped. -/
theorem dropEmptyEnd (h : l.Covers line a) : l.dropEmptyEnd = l := by
  unfold TokenLine.dropEmptyEnd
  split
  · rfl
  · rename_i t rest hlatest
    have hmem : t ∈ l.tokens := by rw [tokens, hlatest]; simp
    have hlt := (h.row.of_mem (Text.isBoundary_zero line) hmem).1
    rw [if_neg (by simp only [Text.Span.isEmpty, decide_eq_true_eq]; omega)]

/-- A line is as long as what its tokens cover. -/
theorem length (h : l.Covers line a) : l.length = a := h.row.length

/-- **A token that begins where the line has come to is taken up**, as a token of its own or by the
last one. -/
theorem merge? (h : l.Covers line a) {t : Token} (hstart : t.range.start = a)
    (hlt : a < t.range.stop) (hbound : IsBoundary line t.range.stop) :
    ∃ l', l.merge? t = some l' ∧ l'.Covers line t.range.stop := by
  have hdrop := h.dropEmptyEnd
  have hlength := h.length
  have hempty : ¬ t.range.isEmpty = true := by
    simp only [Text.Span.isEmpty, decide_eq_true_eq]; omega
  have hadd : l.add? t = some ⟨t :: l.latest⟩ := by
    simp only [TokenLine.add?, hdrop, hlength, hstart, if_true]
  have hone : IsRow line a t.range.stop [t] := isRow_singleton.2 ⟨hstart, hlt, hbound, rfl⟩
  simp only [TokenLine.merge?, hdrop, if_neg hempty, hadd]
  cases hlatest : l.latest with
  | nil =>
    refine ⟨_, rfl, ?_, ?_⟩
    · have hrow := h.row.append hone
      rwa [tokens, hlatest] at hrow
    · simp [tokens]
  | cons last rest =>
    have htokens : l.tokens = rest.reverse ++ [last] := by rw [tokens, hlatest]; simp
    obtain ⟨m, hfront, hlast⟩ := isRow_append.1 (htokens ▸ h.row)
    obtain ⟨hlstart, hlm, -, hlstop⟩ := isRow_singleton.1 hlast
    have hdistinct := htokens ▸ h.distinct
    dsimp only
    split
    · -- The last token grows: its scopes stay, so they still differ from those before it.
      refine ⟨_, rfl, ?_, ?_⟩
      · have hgrown : IsRow line m t.range.stop
            [{ last with range := ⟨last.range.start, t.range.stop⟩ }] :=
          isRow_singleton.2 ⟨hlstart, by omega, hbound, rfl⟩
        simpa only [tokens, List.reverse_cons] using hfront.append hgrown
      · simp only [tokens, List.reverse_cons]
        rw [List.isChain_append] at hdistinct ⊢
        refine ⟨hdistinct.1, List.IsChain.singleton _, fun s hs t' ht' => ?_⟩
        obtain rfl : _ = t' := by simpa using ht'
        exact hdistinct.2.2 s hs last (by simp)
    · rename_i hkeep
      refine ⟨_, rfl, ?_, ?_⟩
      · have hrow := h.row.append hone
        rw [htokens] at hrow
        simpa only [tokens, List.reverse_cons] using hrow
      · simp only [tokens, List.reverse_cons]
        refine List.isChain_append.2 ⟨hdistinct, List.IsChain.singleton _, fun s hs t' ht' => ?_⟩
        obtain rfl : last = s := by simpa using hs
        obtain rfl : t = t' := by simpa using ht'
        rw [Bool.eq_false_iff]
        exact fun hsame => hkeep ⟨by omega, hsame⟩

/-- **A row that begins where the line has come to is taken up.** -/
theorem mergeAll? (h : l.Covers line a) {tokens : List Token} (hrow : IsRow line a b tokens) :
    ∃ l', l.mergeAll? tokens = some l' ∧ l'.Covers line b := by
  unfold TokenLine.mergeAll?
  induction tokens generalizing l a with
  | nil => exact ⟨l, rfl, (isRow_nil.1 hrow) ▸ h⟩
  | cons t tokens ih =>
    obtain ⟨hstart, hlt, hbound, hrest⟩ := isRow_cons.1 hrow
    obtain ⟨l', hl', h'⟩ := h.merge? hstart hlt hbound
    rw [List.foldlM_cons, hl']
    exact ih h' hrest

end Covers

end TokenLine

end ScopePaint
