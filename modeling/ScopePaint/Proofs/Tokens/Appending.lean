import ScopePaint.Proofs.Tokens.ByteScopes

/-!
# Appending tokens to a line

There are three ways to append tokens to a line (`TokenLine.Append`). They differ in whether empty
tokens are passed over and in whether the last token may grow instead, and they can be mixed. Each of
them drops an empty token at the end first.

Such a call succeeds precisely if each token that it appends begins where the line ends by then. The
tokens of a line that only grew in this way lead from its start to its end without gaps, and only the
last one can be empty. Growing tokens make no difference for what is around a byte: it is the same as
if each token that is not empty had been appended as one of its own (`TokenLine.appended_contiguous`).

Without an empty token at its end, such a line is a row of tokens as long as the line
(`TokenLine.InOrder`). That is what the calls keep; what each of them does to the length and to the
scopes around bytes is told by the tokens that it appends alone (`TokenLine.Took`).
-/

set_option autoImplicit false

namespace ScopePaint

/-! ## Tokens that go on where others end -/

/-- Each of some tokens begins where the one before it ends, and the first one at a given place. -/
def Continues : Nat → List Token → Prop
  | _, [] => True
  | a, t :: rest => t.range.start = a ∧ Continues t.range.stop rest

/-- Where tokens end that go on from a place. -/
def endOf (a : Nat) (tokens : List Token) : Nat := tokens.foldl (fun _ t => t.range.stop) a

/-- No token ends before it begins. -/
def Forward (tokens : List Token) : Prop := ∀ t ∈ tokens, t.range.start ≤ t.range.stop

/-- The scopes of the first of some tokens around an offset. -/
def scopesIn? (tokens : List Token) (offset : Nat) : Option ScopeStack :=
  (tokenAt? tokens offset).map (·.scopes)

section Tokens

variable {a b offset : Nat} {t : Token} {xs ys tokens : List Token}

/-- Tokens continue if their first part does and the rest continues behind it. -/
theorem continues_append : Continues a (xs ++ ys) ↔ Continues a xs ∧ Continues (endOf a xs) ys := by
  induction xs generalizing a with
  | nil => simp [Continues, endOf]
  | cons t xs ih =>
    rw [List.cons_append, Continues, ih, Continues, and_assoc]
    rfl

/-- Tokens do not go on where one of them begins anywhere else than those in front of it end. -/
theorem not_continues_iff : ¬ Continues a tokens ↔
    ∃ front t back, tokens = front ++ t :: back ∧ t.range.start ≠ endOf a front := by
  constructor
  · intro hnot
    induction tokens generalizing a with
    | nil => exact absurd trivial hnot
    | cons t tokens ih =>
      by_cases hstart : t.range.start = a
      · obtain ⟨front, u, back, hsplit, hne⟩ := ih fun hrest => hnot ⟨hstart, hrest⟩
        exact ⟨t :: front, u, back, by rw [hsplit]; rfl, hne⟩
      · exact ⟨[], t, tokens, rfl, hstart⟩
  · rintro ⟨front, t, back, rfl, hne⟩ hcontinues
    rw [continues_append] at hcontinues
    exact hne hcontinues.2.1

/-- The end of two parts is that of the second, begun at the end of the first. -/
theorem endOf_append (a : Nat) (xs ys : List Token) :
    endOf a (xs ++ ys) = endOf (endOf a xs) ys := List.foldl_append

/-- The scopes at an offset are found in the first part or in the second. -/
theorem scopesIn?_append (xs ys : List Token) (offset : Nat) :
    scopesIn? (xs ++ ys) offset = (scopesIn? xs offset).or (scopesIn? ys offset) := by
  unfold scopesIn? tokenAt?
  rw [List.find?_append, Option.map_or]

/-- A row goes on from where it begins and ends where it leads. -/
theorem InRow.continues (h : InRow a b tokens) : Continues a tokens ∧ endOf a tokens = b := by
  induction tokens generalizing a with
  | nil => exact ⟨trivial, h⟩
  | cons t tokens ih =>
    obtain ⟨hstart, -, hrest⟩ := inRow_cons.1 h
    obtain ⟨hcontinues, hend⟩ := ih hrest
    exact ⟨⟨hstart, hcontinues⟩, hend⟩

/-- No token in a row is empty. -/
theorem InRow.lt_of_mem (h : InRow a b tokens) (ht : t ∈ tokens) :
    t.range.start < t.range.stop := by
  induction tokens generalizing a with
  | nil => exact absurd ht (by simp)
  | cons u tokens ih =>
    obtain ⟨hstart, hlt, hrest⟩ := inRow_cons.1 h
    rcases List.mem_cons.1 ht with rfl | ht
    · omega
    · exact ih hrest ht

/-- A token gives its scopes in its range. -/
theorem scopesIn?_singleton (t : Token) (offset : Nat) :
    scopesIn? [t] offset = if t.range.contains offset then some t.scopes else none := by
  unfold scopesIn? tokenAt?
  rw [List.find?_singleton]
  split <;> rfl

/-- No byte lies in an empty token. -/
theorem scopesIn?_of_isEmpty (h : t.range.isEmpty = true) (offset : Nat) :
    scopesIn? [t] offset = none := by
  rw [scopesIn?_singleton, if_neg (StyledText.not_contains_of_isEmpty h)]

/-- Around the bytes of two tokens that touch and have the same scopes is what is around those of one
token over both. -/
theorem scopesIn?_grown {u : Token} (hscopes : u.scopes = t.scopes)
    (hmeet : u.range.stop = t.range.start) (hu : u.range.start ≤ u.range.stop)
    (ht : t.range.start ≤ t.range.stop) (offset : Nat) :
    scopesIn? [{ u with range := ⟨u.range.start, t.range.stop⟩ }] offset =
      (scopesIn? [u] offset).or (scopesIn? [t] offset) := by
  simp only [scopesIn?_singleton, Text.Span.contains_iff, hscopes]
  by_cases hin : u.range.start ≤ offset ∧ offset < u.range.stop
  · rw [if_pos hin, if_pos (by omega), Option.some_or]
  · rw [if_neg hin, Option.none_or]
    congr 1
    simp only [eq_iff_iff]
    omega

end Tokens

namespace TokenLine

variable {l l' : TokenLine} {t : Token} {tokens xs ys : List Token} {known : List Scope}

/-! ## Lines that grew token by token -/

/-- The tokens of a line lead from its start to its end, but for an empty one that may stand there. -/
structure InOrder (l : TokenLine) : Prop where
  row : InRow 0 l.length l.dropEmptyEnd.tokens
  forward : ∀ t ∈ l.latest.head?, t.range.start ≤ t.range.stop

/-- What holds of the tokens of a line: each begins where the one before it ends, and the first one
at 0; only the last one can be empty; and the line is as long as they lead. -/
structure Contiguous (l : TokenLine) : Prop where
  adjacent : Continues 0 l.tokens
  nonempty : ∀ t ∈ l.tokens.dropLast, t.range.start < t.range.stop
  length : l.length = ((l.tokens.getLast?).map (·.range.stop)).getD 0

/-- A line that is a row of tokens is in order. -/
theorem InOrder.of_row {b : Nat} (h : InRow 0 b l.tokens) : l.InOrder := by
  refine ⟨?_, ?_⟩
  · rw [length_of_inRow h, dropEmptyEnd_of_inRow h]
    exact h
  · intro t ht
    exact Nat.le_of_lt (h.lt_of_mem (List.mem_reverse.2 (List.mem_of_mem_head? ht)))

/-- A line without tokens is in order. -/
theorem inOrder_empty : empty.InOrder := .of_row (inRow_nil.2 rfl)

/-- The tokens of a line are those that are left without an empty end, and an empty one behind. -/
theorem tokens_eq_dropEmptyEnd (l : TokenLine) :
    l.dropEmptyEnd = l ∨ ∃ t, t.range.isEmpty = true ∧ l.latest.head? = some t ∧
      l.tokens = l.dropEmptyEnd.tokens ++ [t] := by
  unfold dropEmptyEnd
  split
  · exact Or.inl rfl
  · rename_i t rest hlatest
    split
    · rename_i hempty
      right
      refine ⟨t, hempty, by rw [hlatest]; rfl, ?_⟩
      simp [tokens, hlatest]
    · exact Or.inl rfl

/-- Dropping an empty end changes nothing around any byte. -/
theorem scopesAt?_dropEmptyEnd (l : TokenLine) (offset : Nat) :
    l.dropEmptyEnd.scopesAt? offset = l.scopesAt? offset := by
  rcases l.tokens_eq_dropEmptyEnd with hsame | ⟨t, hempty, -, htokens⟩
  · rw [hsame]
  · show scopesIn? _ offset = scopesIn? _ offset
    rw [htokens, scopesIn?_append, scopesIn?_of_isEmpty hempty, Option.or_none]

/-- A line is as long as its last token reaches. -/
theorem length_eq (l : TokenLine) :
    l.length = ((l.tokens.getLast?).map (·.range.stop)).getD 0 := by
  unfold length tokens
  cases l.latest with
  | nil => rfl
  | cons t rest => simp

namespace InOrder

/-- Dropping an empty token keeps the length. -/
theorem length_dropEmptyEnd (h : l.InOrder) : l.dropEmptyEnd.length = l.length :=
  length_of_inRow h.row

/-- An empty token at the end stands where the others end. -/
theorem contiguous (h : l.InOrder) : l.Contiguous := by
  obtain ⟨hcontinues, hend⟩ := h.row.continues
  rcases l.tokens_eq_dropEmptyEnd with hsame | ⟨t, hempty, hlast, htokens⟩
  · rw [hsame] at hcontinues
    refine ⟨hcontinues, ?_, l.length_eq⟩
    intro t ht
    apply h.row.lt_of_mem
    rw [hsame]
    exact List.dropLast_subset _ ht
  · have hle := h.forward t hlast
    have hstop : l.length = t.range.stop := by
      rw [l.length_eq, htokens]
      simp
    have hstart : t.range.start = l.length := by
      simp only [Text.Span.isEmpty, decide_eq_true_eq] at hempty
      omega
    refine ⟨?_, ?_, l.length_eq⟩
    · rw [htokens, continues_append, hend]
      exact ⟨hcontinues, hstart, trivial⟩
    · rw [htokens, List.dropLast_concat]
      intro u hu
      exact h.row.lt_of_mem hu

/-- A line stays in order without an empty token at its end. -/
theorem dropEmptyEnd (h : l.InOrder) : l.dropEmptyEnd.InOrder := .of_row h.row

end InOrder

/-! ## Taking up tokens -/

/-- A line with one more token in the place of an empty end. -/
def push (l : TokenLine) (t : Token) : TokenLine := ⟨t :: l.dropEmptyEnd.latest⟩

/-- A pushed token replaces an empty one at the end. -/
theorem tokens_push (l : TokenLine) (t : Token) :
    (l.push t).tokens = l.dropEmptyEnd.tokens ++ [t] := List.reverse_cons

/-- The line reaches up to its end then. -/
theorem length_push (l : TokenLine) (t : Token) : (l.push t).length = t.range.stop := rfl

/-- An empty token that was put at the end is dropped again. -/
theorem dropEmptyEnd_push (l : TokenLine) (t : Token) :
    (l.push t).dropEmptyEnd = if t.range.isEmpty then l.dropEmptyEnd else l.push t := rfl

/-- What a line has become that took up tokens one after the other. Scopes are told apart by their
numbers, of which the last token is asked before it grows. -/
structure Took (known : List Scope) (l : TokenLine) (tokens : List Token) (l' : TokenLine) :
    Prop where
  inOrder : l'.InOrder
  length : l'.length = endOf l.length tokens
  inside : l.Inside (· ⊆ known) → (∀ t ∈ tokens, t.scopes ⊆ known) → l'.Inside (· ⊆ known)
  scopes : ToldApart known → l.Inside (· ⊆ known) → (∀ t ∈ tokens, t.scopes ⊆ known) →
    ∀ offset, l'.scopesAt? offset = (l.scopesAt? offset).or (scopesIn? tokens offset)

namespace Took

/-- A line that takes no tokens stays as it is. -/
theorem refl (h : l.InOrder) : Took known l [] l where
  inOrder := h
  length := rfl
  inside := fun hl _ => hl
  scopes := fun _ _ _ _ => (Option.or_none ..).symm

/-- What is taken in two parts is taken. -/
theorem trans {l'' : TokenLine} (h : Took known l xs l') (h' : Took known l' ys l'') :
    Took known l (xs ++ ys) l'' where
  inOrder := h'.inOrder
  length := by rw [h'.length, h.length, endOf_append]
  inside := by
    intro hl htokens
    rw [List.forall_mem_append] at htokens
    exact h'.inside (h.inside hl htokens.1) htokens.2
  scopes := by
    intro hknown hl htokens offset
    rw [List.forall_mem_append] at htokens
    rw [h'.scopes hknown (h.inside hl htokens.1) htokens.2, h.scopes hknown hl htokens.1,
      scopesIn?_append, Option.or_assoc]

/-- Dropping an empty end takes up nothing. -/
theorem dropEmptyEnd (h : l.InOrder) : Took known l [] l.dropEmptyEnd where
  inOrder := h.dropEmptyEnd
  length := h.length_dropEmptyEnd
  inside := fun hl _ => hl.dropEmptyEnd
  scopes := by
    intro _ _ _ offset
    rw [scopesAt?_dropEmptyEnd]
    exact (Option.or_none ..).symm

/-- A token that stands behind the others is taken up. -/
theorem push (h : l.InOrder) (hstart : t.range.start = l.length)
    (hle : t.range.start ≤ t.range.stop) : Took known l [t] (l.push t) where
  inOrder := by
    by_cases hempty : t.range.isEmpty = true
    · refine ⟨?_, ?_⟩
      · have hstop : t.range.stop = l.length := by
          simp only [Text.Span.isEmpty, decide_eq_true_eq] at hempty
          omega
        rw [length_push, dropEmptyEnd_push, if_pos hempty, hstop]
        exact h.row
      · intro u hu
        obtain rfl := Option.some.inj hu
        exact hle
    · have hlt := StyledText.start_lt_of_not_isEmpty hempty
      apply InOrder.of_row (b := t.range.stop)
      rw [tokens_push]
      exact h.row.append (inRow_singleton.2 ⟨hstart, by omega, rfl⟩)
  length := length_push l t
  inside := by
    intro hl htokens
    exact List.forall_mem_cons.2 ⟨htokens t (by simp), hl.dropEmptyEnd⟩
  scopes := by
    intro _ _ _ offset
    show scopesIn? (l.push t).tokens offset = _
    rw [tokens_push, scopesIn?_append]
    exact congrArg (Option.or · _) (scopesAt?_dropEmptyEnd l offset)

/-- A token by which the last one grows is taken up: both have the same scopes. -/
theorem grow (h : l.InOrder) {last : Token} {rest : List Token}
    (hlatest : l.dropEmptyEnd.latest = last :: rest) (hstart : t.range.start = l.length)
    (hlt : t.range.start < t.range.stop) (hsame : last.hasSameScopes t = true) :
    Took known l [t] ⟨{ last with range := ⟨last.range.start, t.range.stop⟩ } :: rest⟩ := by
  have htokens : l.dropEmptyEnd.tokens = rest.reverse ++ [last] := by
    rw [tokens, hlatest, List.reverse_cons]
  obtain ⟨m, hfront, hlast⟩ := (htokens ▸ h.row).exists_of_append
  obtain ⟨hlstart, hlm, hlstop⟩ := inRow_singleton.1 hlast
  have hgrown : tokens ⟨{ last with range := ⟨last.range.start, t.range.stop⟩ } :: rest⟩ =
      rest.reverse ++ [{ last with range := ⟨last.range.start, t.range.stop⟩ }] := List.reverse_cons
  refine ⟨?_, rfl, ?_, ?_⟩
  · apply InOrder.of_row (b := t.range.stop)
    rw [hgrown]
    exact hfront.append (inRow_singleton.2 ⟨hlstart, by omega, rfl⟩)
  · intro hl _
    have hrest := hl.dropEmptyEnd
    rw [Inside, hlatest, List.forall_mem_cons] at hrest
    exact List.forall_mem_cons.2 hrest
  · intro hknown hl ht offset
    have hscopes : last.scopes = t.scopes := by
      have hnumbers : last.scopes.map (·.number) = t.scopes.map (·.number) := by
        simpa [Token.hasSameScopes] using hsame
      have hmem : last ∈ l.dropEmptyEnd.latest := hlatest ▸ List.mem_cons_self
      exact hknown.eq_of_numbers (hl.dropEmptyEnd last hmem) (ht t (by simp)) hnumbers
    have hmeet : last.range.stop = t.range.start := by omega
    rw [← scopesAt?_dropEmptyEnd l]
    show scopesIn? (tokens ⟨_ :: rest⟩) offset = (scopesIn? l.dropEmptyEnd.tokens offset).or _
    rw [htokens, hgrown, scopesIn?_append, scopesIn?_append, Option.or_assoc,
      scopesIn?_grown hscopes hmeet (by omega) (by omega)]

end Took

/-! ## Calls -/

/-- What comes of appending tokens: a line that took them up, if they go on from where the line ends,
or else nothing. -/
inductive Appended (known : List Scope) (l : TokenLine) (tokens : List Token) :
    Option TokenLine → Prop
  | took {l' : TokenLine} (hcontinues : Continues l.length tokens)
      (h : Took known l tokens l') : Appended known l tokens (some l')
  | failed (hnot : ¬ Continues l.length tokens) : Appended known l tokens none

namespace Appended

/-- Appending fails if the tokens do not continue the line. -/
theorem eq_none_iff {outcome : Option TokenLine} (h : Appended known l tokens outcome) :
    outcome = none ↔ ¬ Continues l.length tokens := by
  cases h with
  | took hcontinues _ => simp [hcontinues]
  | failed hnot => simp [hnot]

/-- If it does not fail the tokens are taken. -/
theorem took_of_some (h : Appended known l tokens (some l')) : Took known l tokens l' := by
  cases h with
  | took _ h => exact h

/-- More tokens can be appended to a line that took some up. -/
theorem bind {outcome : Option TokenLine} {f : TokenLine → Option TokenLine}
    (h : Appended known l xs outcome)
    (hf : ∀ l', Took known l xs l' → Appended known l' ys (f l')) :
    Appended known l (xs ++ ys) (outcome.bind f) := by
  cases h with
  | failed hnot =>
    refine .failed ?_
    rw [continues_append]
    intro hboth
    exact hnot hboth.1
  | @took l' hcontinues htook =>
    have hnext := hf l' htook
    rw [Option.bind_some]
    generalize f l' = last at hnext
    cases hnext with
    | failed hnot =>
      refine .failed ?_
      rw [continues_append, ← htook.length]
      intro hboth
      exact hnot hboth.2
    | took hcontinues' htook' =>
      refine .took ?_ (htook.trans htook')
      rw [continues_append, ← htook.length]
      exact ⟨hcontinues, hcontinues'⟩

/-- An empty end may be dropped before. -/
theorem of_dropEmptyEnd {outcome : Option TokenLine} (h : l.InOrder)
    (hdropped : Appended known l.dropEmptyEnd tokens outcome) :
    Appended known l tokens outcome := by
  cases hdropped with
  | failed hnot => exact .failed (h.length_dropEmptyEnd ▸ hnot)
  | took hcontinues htook =>
    exact .took (h.length_dropEmptyEnd ▸ hcontinues) ((Took.dropEmptyEnd h).trans htook)

/-- **Appending one token.** -/
theorem add? (known : List Scope) (h : l.InOrder) (hle : t.range.start ≤ t.range.stop) :
    Appended known l [t] (l.add? t) := by
  unfold TokenLine.add?
  dsimp only
  rw [h.length_dropEmptyEnd]
  split
  · rename_i hstart
    exact .took ⟨hstart, trivial⟩ (.push h hstart hle)
  · rename_i hstart
    exact .failed fun hcontinues => hstart hcontinues.1

/-- **Appending tokens one after the other.** -/
theorem foldlM_add? (known : List Scope) (h : l.InOrder) (htokens : Forward tokens) :
    Appended known l tokens (tokens.foldlM TokenLine.add? l) := by
  induction tokens generalizing l with
  | nil => exact .took trivial (.refl h)
  | cons t tokens ih =>
    obtain ⟨ht, hrest⟩ := List.forall_mem_cons.1 htokens
    rw [List.foldlM_cons]
    exact (add? known h ht).bind fun l' htook => ih htook.inOrder hrest

/-- **Appending a token by which the last one may grow.** -/
theorem merge? (known : List Scope) (h : l.InOrder) :
    Appended known l (if t.range.isEmpty then [] else [t]) (l.merge? t) := by
  unfold TokenLine.merge?
  split
  · exact .took trivial (.refl h)
  · rename_i hempty
    have hlt := StyledText.start_lt_of_not_isEmpty hempty
    have hadd : Appended known l [t] (l.dropEmptyEnd.add? t) :=
      .of_dropEmptyEnd h (add? known h.dropEmptyEnd (Nat.le_of_lt hlt))
    dsimp only
    split
    · rename_i last rest hlatest
      split
      · rename_i hgrows
        have hstart : t.range.start = l.length := by
          rw [← hgrows.1, ← h.length_dropEmptyEnd, TokenLine.length, hlatest]
        exact .took ⟨hstart, trivial⟩ (.grow h hlatest hstart hlt hgrows.2)
      · exact hadd
    · exact hadd

end Appended

/-- A call that appends to a line. -/
inductive Append where
  | add (t : Token)
  | addAll (tokens : List Token)
  | merge (t : Token)

namespace Append

/-- Make a call; it may fail. -/
def run (l : TokenLine) : Append → Option TokenLine
  | add t => l.add? t
  | addAll tokens => l.addAll? tokens
  | merge t => l.merge? t

/-- The tokens that a call appends: all that it is given, but for an empty one that is passed
over. -/
def appended : Append → List Token
  | add t => [t]
  | addAll tokens => tokens
  | merge t => if t.range.isEmpty then [] else [t]

/-- The same without growing tokens: each token that is not empty is appended as one of its own. -/
def plain : Append → List Append
  | merge t => if t.range.isEmpty then [] else [add t]
  | call => [call]

end Append

/-- Make calls one after the other, as long as none fails. -/
def appendAll? (l : TokenLine) (calls : List Append) : Option TokenLine :=
  calls.foldlM Append.run l

/-- A call appends its tokens. -/
theorem Append.appended_run (known : List Scope) (h : l.InOrder) {call : Append}
    (hcall : Forward call.appended) : Appended known l call.appended (call.run l) := by
  cases call with
  | add t => exact .add? known h (hcall t (by simp [appended]))
  | addAll tokens => exact .of_dropEmptyEnd h (.foldlM_add? known h.dropEmptyEnd hcall)
  | merge t => exact .merge? known h

/-- **Calls append the tokens that they are given**, as if by one call for all of them. -/
theorem appended_appendAll? (known : List Scope) (h : l.InOrder) {calls : List Append}
    (hcalls : Forward (calls.flatMap Append.appended)) :
    Appended known l (calls.flatMap Append.appended) (l.appendAll? calls) := by
  unfold appendAll?
  induction calls generalizing l with
  | nil => exact .took trivial (.refl h)
  | cons call calls ih =>
    rw [List.flatMap_cons] at hcalls ⊢
    obtain ⟨hcall, hrest⟩ := List.forall_mem_append.1 hcalls
    rw [List.foldlM_cons]
    exact (Append.appended_run known h hcall).bind fun l' htook => ih htook.inOrder hrest

/-- Calls append the same tokens one at a time. -/
theorem flatMap_appended_plain (calls : List Append) :
    (calls.flatMap Append.plain).flatMap Append.appended = calls.flatMap Append.appended := by
  rw [List.flatMap_assoc]
  congr 1
  funext call
  cases call with
  | add t => simp [Append.plain, Append.appended]
  | addAll tokens => simp [Append.plain, Append.appended]
  | merge t => by_cases hempty : t.range.isEmpty <;> simp [Append.plain, Append.appended, hempty]

/-- **Around a byte of a line are the scopes of the token that was appended over it**, whether or not
the line still has this token as one of its own. -/
theorem scopesAt?_of_appendAll? {calls : List Append}
    (hforward : Forward (calls.flatMap Append.appended))
    (htold : ToldApart ((calls.flatMap Append.appended).flatMap (·.scopes)))
    (hl : empty.appendAll? calls = some l) (offset : Nat) :
    l.scopesAt? offset = scopesIn? (calls.flatMap Append.appended) offset := by
  have hcalls := appended_appendAll? ((calls.flatMap Append.appended).flatMap (·.scopes))
    inOrder_empty hforward
  rw [hl] at hcalls
  have hempty : empty.Inside (· ⊆ (calls.flatMap Append.appended).flatMap (·.scopes)) := by
    intro t ht
    exact absurd ht (by simp [empty])
  refine hcalls.took_of_some.scopes htold hempty ?_ offset
  intro t ht s hs
  exact List.mem_flatMap.2 ⟨t, ht, hs⟩

/-- **Lines that tokens are appended to.** Whatever calls have been made and have not failed, with
tokens that do not end before they begin, the tokens of the line lie one behind the other from 0 on,
only the last one can be empty, and the line ends where it does. The next call fails if and only if a
token that it appends does not begin where the line ends by then. If every token that may make the
last one grow is appended as one of its own instead, the calls fail in the same cases, and what is
around each byte is the same. -/
theorem appended_contiguous (calls : List Append)
    (hforward : Forward (calls.flatMap Append.appended)) :
    (∀ l, empty.appendAll? calls = some l → l.Contiguous ∧
      ∀ call : Append, Forward call.appended →
        (call.run l = none ↔ ∃ front t back, call.appended = front ++ t :: back ∧
          t.range.start ≠ endOf l.length front)) ∧
    (empty.appendAll? (calls.flatMap Append.plain) = none ↔ empty.appendAll? calls = none) ∧
    (ToldApart ((calls.flatMap Append.appended).flatMap (·.scopes)) →
      ∀ l l', empty.appendAll? calls = some l →
        empty.appendAll? (calls.flatMap Append.plain) = some l' →
          ∀ offset, l.scopesAt? offset = l'.scopesAt? offset) := by
  have hsame := flatMap_appended_plain calls
  have hplain : Forward ((calls.flatMap Append.plain).flatMap Append.appended) :=
    hsame.symm ▸ hforward
  refine ⟨?_, ?_, ?_⟩
  · intro l hl
    have hcalls := appended_appendAll? [] inOrder_empty hforward
    rw [hl] at hcalls
    have hinOrder := hcalls.took_of_some.inOrder
    refine ⟨hinOrder.contiguous, ?_⟩
    intro call hcall
    rw [(Append.appended_run [] hinOrder hcall).eq_none_iff, not_continues_iff]
  · rw [(appended_appendAll? [] inOrder_empty hplain).eq_none_iff, hsame,
      (appended_appendAll? [] inOrder_empty hforward).eq_none_iff]
  · intro htold l l' hl hl' offset
    rw [scopesAt?_of_appendAll? hforward htold hl,
      scopesAt?_of_appendAll? hplain (hsame.symm ▸ htold) hl', hsame]

/-- The scope of a document. -/
def mixedRoot : Scope := { number := 0, name := some ⟨rootScope⟩ }

/-- The scope of a comment. -/
def mixedComment : Scope := { number := 1, name := some ⟨"comment"⟩ }

/-- Calls of all kinds, with two empty tokens that are dropped and one that is passed over. -/
def mixedCalls : List Append :=
  [.add ⟨⟨0, 3⟩, [mixedRoot]⟩, .add ⟨⟨3, 3⟩, [mixedRoot]⟩, .merge ⟨⟨3, 5⟩, [mixedRoot]⟩,
    .merge ⟨⟨7, 7⟩, [mixedComment, mixedRoot]⟩,
    .addAll [⟨⟨5, 6⟩, [mixedComment, mixedRoot]⟩, ⟨⟨6, 6⟩, [mixedRoot]⟩],
    .merge ⟨⟨6, 8⟩, [mixedComment, mixedRoot]⟩]

/-- Two tokens, each of which grew once, come of four. -/
theorem appended_contiguous_mixed :
    ∃ l l', empty.appendAll? mixedCalls = some l ∧
      empty.appendAll? (mixedCalls.flatMap Append.plain) = some l' ∧
      l.tokens.map (·.range) = [⟨0, 5⟩, ⟨5, 8⟩] ∧
      l'.tokens.map (·.range) = [⟨0, 3⟩, ⟨3, 5⟩, ⟨5, 6⟩, ⟨6, 8⟩] ∧
      l.Contiguous ∧ (Append.add ⟨⟨9, 9⟩, [mixedRoot]⟩).run l = none ∧
      ∀ offset, l.scopesAt? offset = l'.scopesAt? offset := by
  have hforward : Forward (mixedCalls.flatMap Append.appended) := by
    unfold Forward
    decide
  have htold : ToldApart ((mixedCalls.flatMap Append.appended).flatMap (·.scopes)) := by
    have hmem : ∀ s ∈ (mixedCalls.flatMap Append.appended).flatMap (·.scopes),
        s = mixedRoot ∨ s = mixedComment := by
      intro s hs
      simp [mixedCalls, Append.appended, Text.Span.isEmpty] at hs
      grind
    intro s hs t ht hnumber
    rcases hmem s hs with rfl | rfl <;> rcases hmem t ht with rfl | rfl
    · rfl
    · exact absurd hnumber (by decide)
    · exact absurd hnumber (by decide)
    · rfl
  obtain ⟨hcalls, -, hplain⟩ := appended_contiguous mixedCalls hforward
  refine ⟨_, _, rfl, rfl, rfl, rfl, (hcalls _ rfl).1, ?_, hplain htold _ _ rfl rfl⟩
  rw [(hcalls _ rfl).2 (.add ⟨⟨9, 9⟩, [mixedRoot]⟩) (by unfold Forward; decide)]
  exact ⟨[], ⟨⟨9, 9⟩, [mixedRoot]⟩, [], rfl, by decide⟩

end TokenLine

end ScopePaint
