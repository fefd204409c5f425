import Mathlib.Order.Bounds.Basic
import ScopePaint.Proofs.Regex.EscapedText
import ScopePaint.Proofs.Regex.SearchStart
import ScopePaint.Proofs.Text.Slices

/-!
# Looking for a text

An expression of characters and anchors leaves the matcher no choice: it is met from left to right, or
it is refused (`run_of_isFlat`). Its attempts are not given up, since each constructor takes one step
and a refusal goes back once (`matchAt_of_isFlat`). So the expression of a text matches where the text
stands and nowhere else (`attemptAt_literalProgram`), and the expression of a line matches a line of
that text and no other one (`attemptAt_lineProgram`). A search finds what is found at the least place
where something is found (`searchFrom_of_isLeast`, `searchFrom_eq_none`), so searching for a text
leads to the first place where it stands (`finds_of_literalProgram`).
-/

set_option autoImplicit false

namespace ScopePaint.Regex

open Text (IsBoundary byteLength byteOffset slice? splitAtByte?)

/-! ## Running expressions of characters and anchors -/

/-- Meet a node of characters and anchors: the machine behind it, if it is there. -/
def Node.meet (origin : Nat) : Node → State → Option State
  | .empty, s => some s
  | .literal c, s => s.readText false [c]
  | .anchor a, s => if a.holds origin s.cursor then some s else none
  | .seq a b, s => (a.meet origin s).bind (b.meet origin)
  | _, _ => none

section Machine

variable {p : Program} {origin : Nat} {n : Node} {ns : List Node} {s s' : State} {goals : List Goal}
  {t rest : List Char} {c : Cursor}

/-- A character is met by reading it. -/
theorem stepNode_literal (x : Char) : stepNode p origin (.literal x) s goals [] =
    match s.readText false [x] with
    | some s => .go s goals []
    | none => .back [] := by
  simp only [stepNode, State.readText]
  cases s.next with
  | none => rfl
  | some found =>
    obtain ⟨d, s⟩ := found
    by_cases hd : x = d
    · simp [hd]
    · simp [hd]

/-- **An expression of characters and anchors is met from left to right**, in as many steps as it has
constructors. Where it is refused, going back once ends the run. -/
theorem run_of_isFlat (hn : n.isFlat = true) (fuel retries : Nat) :
    run p origin (n.size + fuel) (retries + 1) s (.node n :: goals) [] =
      match n.meet origin s with
      | some s => run p origin fuel (retries + 1) s goals []
      | none => .ok none := by
  induction n generalizing s goals fuel with
  | empty =>
    have hfuel : Node.empty.size + fuel = fuel + 1 := Nat.add_comm 1 fuel
    rw [hfuel, run]
    rfl
  | literal x =>
    have hfuel : (Node.literal x).size + fuel = fuel + 1 := Nat.add_comm 1 fuel
    rw [hfuel, run, step, stepNode_literal, Node.meet]
    cases s.readText false [x] with
    | none => rfl
    | some s => rfl
  | anchor a =>
    have hfuel : (Node.anchor a).size + fuel = fuel + 1 := Nat.add_comm 1 fuel
    rw [hfuel, run, step, stepNode, Node.meet]
    cases a.holds origin s.cursor with
    | false => rfl
    | true => rfl
  | seq a b iha ihb =>
    obtain ⟨ha, hb⟩ := Bool.and_eq_true_iff.1 hn
    have hfuel : (Node.seq a b).size + fuel = a.size + (b.size + fuel) + 1 := by
      rw [Node.size]
      omega
    have hfirst : run p origin ((Node.seq a b).size + fuel) (retries + 1) s
        (.node (.seq a b) :: goals) [] =
        run p origin (a.size + (b.size + fuel)) (retries + 1) s (.node a :: .node b :: goals) [] := by
      rw [hfuel, run]
      rfl
    rw [hfirst, iha ha, Node.meet]
    cases a.meet origin s with
    | none => rfl
    | some s => exact ihb hb _
  | _ => exact absurd hn (by simp [Node.isFlat])

/-- Where the machine stands when an attempt begins. -/
def Cursor.begin (c : Cursor) (count : Nat) : State :=
  ⟨c, List.replicate (count + 1) {}, c.index, none, 0, []⟩

/-- An attempt at such an expression is not given up. -/
theorem matchAt_of_isFlat (hn : p.root.isFlat = true) (origin : Nat) (c : Cursor) :
    p.matchAt origin c = .ok (p.root.meet origin (c.begin p.count)) := by
  obtain ⟨fuel, hfuel⟩ : ∃ fuel, stepLimit + 2 * p.root.size = p.root.size + (fuel + 1) := by
    have hpos : 0 < stepLimit := Nat.two_pow_pos 60
    refine ⟨stepLimit + p.root.size - 1, ?_⟩
    omega
  have hrun : p.matchAt origin c =
      run p origin (p.root.size + (fuel + 1)) (9999999 + 1) (c.begin p.count) [.node p.root] [] := by
    rw [Program.matchAt, hfuel]
    rfl
  rw [hrun, run_of_isFlat hn]
  cases p.root.meet origin (c.begin p.count) with
  | none => rfl
  | some s => rfl

/-- A sequence is met node by node. -/
theorem meet_seqOf_cons : (Node.seqOf (n :: ns)).meet origin s =
    (n.meet origin s).bind ((Node.seqOf ns).meet origin) := by
  cases ns with
  | nil =>
    show n.meet origin s = (n.meet origin s).bind some
    rw [Option.bind_fun_some]
  | cons m ns => rfl

/-- A text is read character by character. -/
theorem readText_cons (x : Char) :
    s.readText false (x :: t) = (s.readText false [x]).bind (State.readText false t) := by
  simp only [State.readText]
  cases s.next with
  | none => rfl
  | some found =>
    obtain ⟨d, s⟩ := found
    by_cases hd : x = d
    · simp [hd]
    · simp [hd]

/-- The literals of a text read it. -/
theorem meet_literals_append (t : List Char) : (Node.seqOf (literals t ++ ns)).meet origin s =
    (s.readText false t).bind ((Node.seqOf ns).meet origin) := by
  induction t generalizing s with
  | nil => rfl
  | cons x t ih =>
    calc (Node.seqOf (.literal x :: (literals t ++ ns))).meet origin s
        = (s.readText false [x]).bind ((Node.seqOf (literals t ++ ns)).meet origin) :=
          meet_seqOf_cons
      _ = (s.readText false [x]).bind fun s =>
            (s.readText false t).bind ((Node.seqOf ns).meet origin) := by
          simp only [ih]
      _ = (s.readText false (x :: t)).bind ((Node.seqOf ns).meet origin) := by
          rw [readText_cons (t := t), Option.bind_assoc]

/-- The literals of a text read it and nothing else. -/
theorem meet_literals (t : List Char) :
    (Node.seqOf (literals t)).meet origin s = s.readText false t := by
  have hread : (Node.seqOf (literals t ++ [])).meet origin s = (s.readText false t).bind some :=
    meet_literals_append t
  rwa [List.append_nil, Option.bind_fun_some] at hread

/-- The machine behind a text that it has read. -/
def State.behind (s : State) (t rest : List Char) : State :=
  { s with cursor := ⟨t.reverse ++ s.cursor.before, rest, s.cursor.index + t.length⟩ }

/-- The next character is the first one behind the place. -/
theorem next_of_after_eq_cons {y : Char} (hlimit : s.limit = none)
    (hafter : s.cursor.after = y :: rest) : s.next = some (y, s.behind [y] rest) := by
  simp [State.next, State.behind, hafter, hlimit]

/-- At the end of the text there is no next character. -/
theorem next_of_after_eq_nil (hafter : s.cursor.after = []) : s.next = none := by
  simp [State.next, hafter]

/-- **A text is read where it stands**, and nothing else is. -/
theorem readText_eq_some_iff (hlimit : s.limit = none) :
    s.readText false t = some s' ↔ ∃ rest, s.cursor.after = t ++ rest ∧ s' = s.behind t rest := by
  induction t generalizing s with
  | nil => simp [State.readText, State.behind, eq_comm]
  | cons x t ih =>
    rw [State.readText]
    cases hafter : s.cursor.after with
    | nil =>
      rw [next_of_after_eq_nil hafter]
      simp
    | cons y after =>
      rw [next_of_after_eq_cons hlimit hafter]
      by_cases hy : x = y
      · subst hy
        have hbehind : ∀ rest, (s.behind [x] after).behind t rest = s.behind (x :: t) rest := by
          intro rest
          simp [State.behind, Nat.add_assoc, Nat.add_comm 1]
        simp only [true_or, if_true, ih (s := s.behind [x] after) hlimit, hbehind]
        simp [State.behind]
      · simp [hy, Ne.symm hy]

/-- A text is refused where it does not stand. -/
theorem readText_eq_none_iff (hlimit : s.limit = none) :
    s.readText false t = none ↔ ¬ t <+: s.cursor.after := by
  rw [Option.eq_none_iff_forall_ne_some]
  constructor
  · rintro h ⟨rest, hrest⟩
    exact h _ ((readText_eq_some_iff hlimit).2 ⟨rest, hrest.symm, rfl⟩)
  · intro h s' hs'
    obtain ⟨rest, hrest, -⟩ := (readText_eq_some_iff hlimit).1 hs'
    exact h ⟨rest, hrest.symm⟩

end Machine

/-! ## Attempts -/

/-- The match of an attempt at a byte offset; there is none inside of a character. -/
def attemptAt (p : Program) (cs : List Char) (origin offset : Nat) :
    Except SearchError (Option Match) :=
  match splitAtByte? offset cs with
  | some (before, after) => attempt p cs origin ⟨before.reverse, after, before.length⟩
  | none => .ok none

section Attempts

variable {p : Program} {cs before after t : List Char} {origin offset : Nat} {c : Char}

/-- Between two parts of a text, the attempt is one from there. -/
theorem attemptAt_append : attemptAt p (before ++ after) origin (byteLength before) =
    attempt p (before ++ after) origin ⟨before.reverse, after, before.length⟩ := by
  rw [attemptAt, Text.splitAtByte?_append]

/-- Attempts are made between characters. -/
theorem isBoundary_of_attemptAt (h : attemptAt p cs origin offset ≠ .ok none) :
    IsBoundary cs offset := by
  rw [Text.isBoundary_iff_isSome]
  unfold attemptAt at h
  cases hsplit : splitAtByte? offset cs with
  | none => exact absurd (by rw [hsplit]) h
  | some parts => rfl

/-- The match of an attempt that has read a text. -/
theorem matchOf_behind (before t rest : List Char) :
    matchOf (before ++ (t ++ rest)) origin before.length 0
      (((Cursor.mk before.reverse (t ++ rest) before.length).begin 0).behind t rest) =
      some ⟨⟨byteLength before, byteLength before + byteLength t⟩, []⟩ := by
  have hstart : byteOffset (before ++ (t ++ rest)) before.length = byteLength before :=
    Text.byteOffset_append _ _
  have hstop : byteOffset (before ++ (t ++ rest)) (before.length + t.length) =
      byteLength before + byteLength t := by
    rw [← List.append_assoc, ← List.length_append, Text.byteOffset_append, Text.byteLength_append]
  simp [matchOf, State.behind, Cursor.begin, spanOf, hstart, hstop]

/-- The expression of a text matches right in front of the text. -/
theorem attempt_literalProgram (before t after : List Char) :
    attempt (literalProgram t) (before ++ after) origin ⟨before.reverse, after, before.length⟩ =
      .ok (if t <+: after then some ⟨⟨byteLength before, byteLength before + byteLength t⟩, []⟩
        else none) := by
  have hmeet : (literalProgram t).matchAt origin ⟨before.reverse, after, before.length⟩ =
      .ok (((Cursor.mk before.reverse after before.length).begin 0).readText false t) := by
    rw [matchAt_of_isFlat (isFlat_literalProgram t)]
    exact congrArg Except.ok (meet_literals t)
  rw [attempt, hmeet]
  refine congrArg Except.ok ?_
  cases hread : ((Cursor.mk before.reverse after before.length).begin 0).readText false t with
  | none =>
    rw [if_neg]
    · rfl
    · exact (readText_eq_none_iff rfl).1 hread
  | some s =>
    obtain ⟨rest, hafter, rfl⟩ := (readText_eq_some_iff rfl).1 hread
    obtain rfl : after = t ++ rest := hafter
    rw [if_pos (List.prefix_append t rest)]
    exact matchOf_behind before t rest

/-- **The expression of a text** matches where the text stands. -/
theorem attemptAt_literalProgram (t cs : List Char) (origin offset : Nat) :
    attemptAt (literalProgram t) cs origin offset =
      .ok (if slice? cs ⟨offset, offset + byteLength t⟩ = some t then
        some ⟨⟨offset, offset + byteLength t⟩, []⟩
      else none) := by
  by_cases hbound : IsBoundary cs offset
  · obtain ⟨before, after, rfl, rfl⟩ := hbound
    rw [attemptAt_append, attempt_literalProgram]
    simp only [Text.slice?_append_eq_some_iff]
  · have hslice : slice? cs ⟨offset, offset + byteLength t⟩ ≠ some t := by
      intro h
      exact hbound (Text.isBoundary_of_slice? h).1
    have hattempt : attemptAt (literalProgram t) cs origin offset = .ok none := by
      by_contra hne
      exact hbound (isBoundary_of_attemptAt hne)
    rw [if_neg hslice, hattempt]

/-- In a text without line breaks a line starts only where the text does. -/
theorem holds_lineStart_iff {c : Cursor} (h : '\n' ∉ c.before) :
    Anchor.lineStart.holds origin c = true ↔ c.before = [] := by
  unfold Anchor.holds
  cases hbefore : c.before with
  | nil => simp
  | cons x more =>
    have hx : x ≠ '\n' := by
      rintro rfl
      simp [hbefore] at h
    simp [hx]

/-- In a text without line breaks a line ends only where the text does. -/
theorem holds_lineEnd_iff {c : Cursor} (h : '\n' ∉ c.after) :
    Anchor.lineEnd.holds origin c = true ↔ c.after = [] := by
  unfold Anchor.holds
  cases hafter : c.after with
  | nil => simp
  | cons x more =>
    have hx : x ≠ '\n' := by
      rintro rfl
      simp [hafter] at h
    simp [hx]

/-- The expression of a line is met by a start, the text and an end. -/
theorem meet_lineProgram (t : List Char) (s : State) : (lineProgram t).root.meet origin s =
    if Anchor.lineStart.holds origin s.cursor then
      (s.readText false t).bind fun s =>
        if Anchor.lineEnd.holds origin s.cursor then some s else none
    else none := by
  have hmeet : (lineProgram t).root.meet origin s =
      ((Node.anchor .lineStart).meet origin s).bind fun s =>
        (s.readText false t).bind ((Node.seqOf [.anchor .lineEnd]).meet origin) := by
    rw [lineProgram, meet_seqOf_cons]
    simp only [meet_literals_append]
  rw [hmeet, Node.meet]
  split
  · rfl
  · rfl

/-- What is read where the expression of a line is met: all of the text. -/
theorem eq_of_meet_lineProgram {s : State} (hcs : '\n' ∉ before ++ after)
    (h : (lineProgram t).root.meet origin ((Cursor.mk before.reverse after before.length).begin 0) =
      some s) : before = [] ∧ after = t := by
  rw [List.mem_append, not_or] at hcs
  obtain ⟨hbefore, hafter⟩ := hcs
  rw [meet_lineProgram] at h
  split at h
  · rename_i hstart
    obtain ⟨s', hread, hs⟩ := Option.bind_eq_some_iff.1 h
    obtain ⟨rest, hrest, rfl⟩ := (readText_eq_some_iff rfl).1 hread
    obtain rfl : after = t ++ rest := hrest
    split at hs
    · rename_i hend
      have hreverse : '\n' ∉ before.reverse := fun hmem => hbefore (List.mem_reverse.1 hmem)
      have hfirst : before.reverse = [] := (holds_lineStart_iff hreverse).1 hstart
      have hlast : rest = [] := by
        rw [List.mem_append, not_or] at hafter
        exact (holds_lineEnd_iff hafter.2).1 hend
      exact ⟨List.reverse_eq_nil_iff.1 hfirst, by rw [hlast, List.append_nil]⟩
    · exact absurd hs (by simp)
  · exact absurd h (by simp)

/-- The expression of a line is met by that line. -/
theorem meet_lineProgram_self (t : List Char) :
    (lineProgram t).root.meet origin ((Cursor.mk [] t 0).begin 0) =
      some (((Cursor.mk [] t 0).begin 0).behind t []) := by
  have hread : ((Cursor.mk [] t 0).begin 0).readText false t =
      some (((Cursor.mk [] t 0).begin 0).behind t []) :=
    (readText_eq_some_iff rfl).2 ⟨[], (List.append_nil t).symm, rfl⟩
  have hstart : Anchor.lineStart.holds origin ⟨[], t, 0⟩ = true := rfl
  have hend : Anchor.lineEnd.holds origin ⟨t.reverse ++ [], [], 0 + t.length⟩ = true := rfl
  rw [meet_lineProgram]
  show (if Anchor.lineStart.holds origin ⟨[], t, 0⟩ then
    (((Cursor.mk [] t 0).begin 0).readText false t).bind _ else none) = _
  rw [if_pos hstart, hread, Option.bind_some]
  exact if_pos hend

/-- **The expression of a line** matches a line of that text, and no other one. -/
theorem attemptAt_lineProgram (hcs : '\n' ∉ cs) :
    ∃ found, attemptAt (lineProgram t) cs origin offset = .ok found ∧
      (found.isSome = true ↔ offset = 0 ∧ cs = t) := by
  by_cases hbound : IsBoundary cs offset
  · obtain ⟨before, after, rfl, rfl⟩ := hbound
    rw [attemptAt_append, attempt, matchAt_of_isFlat (isFlat_lineProgram t)]
    refine ⟨_, rfl, ?_⟩
    constructor
    · intro h
      obtain ⟨m, hm⟩ := Option.isSome_iff_exists.1 h
      obtain ⟨s, hs, -⟩ := Option.bind_eq_some_iff.1 hm
      obtain ⟨rfl, rfl⟩ := eq_of_meet_lineProgram hcs hs
      exact ⟨rfl, rfl⟩
    · rintro ⟨hzero, hline⟩
      obtain rfl : before = [] := Text.byteLength_eq_zero_iff.1 hzero
      obtain rfl : after = t := hline
      show (((lineProgram after).root.meet origin ((Cursor.mk [] after 0).begin 0)).bind
        _).isSome = true
      rw [meet_lineProgram_self, Option.bind_some, Option.isSome_iff_ne_none, ne_eq,
        matchOf_eq_none_iff]
      exact Nat.not_lt_zero _
  · refine ⟨none, ?_, ?_⟩
    · by_contra hne
      exact hbound (isBoundary_of_attemptAt hne)
    · constructor
      · intro h
        exact absurd h (by simp)
      · rintro ⟨rfl, -⟩
        exact absurd (Text.isBoundary_zero cs) hbound

/-! ## Searches -/

/-- At the end of a text one attempt is left. -/
theorem searchFrom_end : searchFrom p before origin before.reverse before.length [] =
    attemptAt p before origin (byteLength before) := by
  have hend : attemptAt p (before ++ []) origin (byteLength before) =
      attempt p (before ++ []) origin ⟨before.reverse, [], before.length⟩ := attemptAt_append
  rw [List.append_nil] at hend
  rw [searchFrom, hend]

/-- In front of a character, the attempts behind it count only if the one here fails. -/
theorem searchFrom_char (hcs : cs = before ++ c :: after) :
    searchFrom p cs origin before.reverse before.length (c :: after) =
      match attemptAt p cs origin (byteLength before) with
      | .ok none => searchFrom p cs origin (before ++ [c]).reverse (before ++ [c]).length after
      | result => result := by
  rw [searchFrom, hcs, attemptAt_append, List.reverse_append, List.length_append]
  rfl

/-- **A search finds what is found at the least place** where an attempt does not fail; if that one
is given up, so is the search. -/
theorem searchFrom_of_isLeast (hcs : cs = before ++ after)
    (h : IsLeast {q | byteLength before ≤ q ∧ attemptAt p cs origin q ≠ .ok none} offset) :
    searchFrom p cs origin before.reverse before.length after = attemptAt p cs origin offset := by
  induction after generalizing before with
  | nil =>
    rw [List.append_nil] at hcs
    subst hcs
    have hend : offset ≤ byteLength cs := (isBoundary_of_attemptAt h.1.2).le
    rw [searchFrom_end, Nat.le_antisymm hend h.1.1]
  | cons c after ih =>
    obtain ⟨⟨hle, hfound⟩, hleast⟩ := h
    have hbound : IsBoundary (before ++ c :: after) offset := hcs ▸ isBoundary_of_attemptAt hfound
    rw [searchFrom_char hcs]
    rcases hbound.eq_or_le hle with rfl | hbehind
    · split
      · rename_i hnone
        exact absurd hnone hfound
      · rfl
    · have hlt : byteLength before < byteLength (before ++ [c]) := by
        have hpos := c.utf8Size_pos
        simp only [Text.byteLength_append, Text.byteLength_cons]
        omega
      -- Nothing is found in front of the character, since the least place is behind it.
      have hnone : attemptAt p cs origin (byteLength before) = .ok none := by
        by_contra hne
        have hfirst := hleast ⟨Nat.le_refl _, hne⟩
        omega
      rw [hnone]
      apply ih
      · rw [hcs, List.append_assoc]
        rfl
      · refine ⟨⟨hbehind, hfound⟩, fun q hq => hleast ⟨?_, hq.2⟩⟩
        exact Nat.le_trans (Nat.le_of_lt hlt) hq.1

/-- A search finds nothing if nothing is found at any place. -/
theorem searchFrom_eq_none (hcs : cs = before ++ after)
    (h : ∀ q, byteLength before ≤ q → attemptAt p cs origin q = .ok none) :
    searchFrom p cs origin before.reverse before.length after = .ok none := by
  induction after generalizing before with
  | nil =>
    rw [List.append_nil] at hcs
    subst hcs
    rw [searchFrom_end, h _ (Nat.le_refl _)]
  | cons c after ih =>
    rw [searchFrom_char hcs, h _ (Nat.le_refl _)]
    apply ih
    · rw [hcs, List.append_assoc]
      rfl
    · intro q hq
      apply h
      rw [Text.byteLength_append] at hq
      omega

end Attempts

/-! ## Looking for a text and for a line -/

section Search

variable {r : Regex} {cs t : List Char}

/-- A search from between two parts of a text. -/
theorem search_append (before after : List Char) : r.search (before ++ after) (byteLength before) =
    searchFrom r.program (before ++ after) before.length before.reverse before.length after := by
  rw [search, Text.splitAtByte?_append]

/-- Whether an expression is found where a text stands and nowhere else: a search from a place of any
line leads to the least offset from there on at which the text stands, or nowhere if there is none.
No search is given up. -/
def Finds (r : Regex) (t : List Char) : Prop :=
  ∀ cs pos, IsBoundary cs pos →
    (∀ q, IsLeast {q | pos ≤ q ∧ slice? cs ⟨q, q + byteLength t⟩ = some t} q →
      r.search cs pos = .ok (some ⟨⟨q, q + byteLength t⟩, []⟩)) ∧
    ((∀ q, pos ≤ q → slice? cs ⟨q, q + byteLength t⟩ ≠ some t) → r.search cs pos = .ok none)

/-- **A search for a text** leads to the first place where it stands, if there is one. -/
theorem finds_of_literalProgram (hr : r.program = literalProgram t) : r.Finds t := by
  rintro cs pos ⟨before, after, rfl, rfl⟩
  rw [search_append, hr]
  constructor
  · intro q hq
    have hleast : IsLeast {q | byteLength before ≤ q ∧
        attemptAt (literalProgram t) (before ++ after) before.length q ≠ .ok none} q := by
      simpa [attemptAt_literalProgram] using hq
    rw [searchFrom_of_isLeast rfl hleast, attemptAt_literalProgram, if_pos hq.1.2]
  · intro hnone
    apply searchFrom_eq_none rfl
    intro q hq
    rw [attemptAt_literalProgram, if_neg (hnone q hq)]

/-- **A line is matched** by the expression of a line if and only if it is the text. -/
theorem isMatch_lineProgram (hr : r.program = lineProgram t) (hcs : '\n' ∉ cs) :
    r.isMatch cs = .ok (decide (cs = t)) := by
  have hsearch : r.search cs 0 =
      searchFrom (lineProgram t) cs 0 ([] : List Char).reverse ([] : List Char).length cs := by
    rw [← hr]
    exact search_append [] cs
  have hattempt : ∀ q, ∃ found, attemptAt (lineProgram t) cs 0 q = .ok found ∧
      (found.isSome = true ↔ q = 0 ∧ cs = t) := fun _ => attemptAt_lineProgram hcs
  rw [isMatch, hsearch]
  by_cases heq : cs = t
  · obtain ⟨found, hfound, hiff⟩ := hattempt 0
    have hsome : found.isSome = true := hiff.2 ⟨rfl, heq⟩
    have hleast : IsLeast {q | byteLength [] ≤ q ∧
        attemptAt (lineProgram t) cs 0 q ≠ .ok none} 0 := by
      refine ⟨⟨Nat.le_refl _, ?_⟩, fun q _ => Nat.zero_le q⟩
      rw [hfound]
      rintro ⟨⟩
      exact absurd hsome (by simp)
    rw [searchFrom_of_isLeast (List.nil_append cs).symm hleast, hfound, decide_eq_true heq]
    exact congrArg Except.ok hsome
  · have hnone : ∀ q, byteLength [] ≤ q → attemptAt (lineProgram t) cs 0 q = .ok none := by
      intro q _
      obtain ⟨found, hfound, hiff⟩ := hattempt q
      rw [hfound, Option.not_isSome_iff_eq_none.1 fun hsome => heq (hiff.1 hsome).2]
    rw [searchFrom_eq_none (List.nil_append cs).symm hnone, decide_eq_false heq]
    rfl

end Search

end ScopePaint.Regex
