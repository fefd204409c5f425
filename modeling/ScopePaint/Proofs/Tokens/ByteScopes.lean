import ScopePaint.Proofs.Tokens.TokenAt
import ScopePaint.Proofs.Tokens.TokenScopes

/-!
# The scopes around bytes

`Carries around a b tokens` says that tokens lead from the offset `a` to the offset `b`, and which
scopes they have there: all bytes of a token have its scopes around them. Taking up tokens at the
end of a line, as tokens of their own or as parts of the last one, changes nothing for the bytes in
front of them, and their own bytes keep their scopes (`TokenLine.mergeAll?_carries`). That rests on
the numbers of scopes: a token grows by another one if the numbers of their scopes are the same, so
numbers have to tell scopes apart (`ToldApart`).
-/

set_option autoImplicit false

namespace ScopePaint

/-! ## Tokens and the scopes of their bytes -/

/-- Tokens that lead from an offset to another one, with given scopes around each byte. -/
structure Carries (around : Nat → ScopeStack) (a b : Nat) (tokens : List Token) : Prop where
  row : InRow a b tokens
  scopes : ∀ t ∈ tokens, ∀ offset, t.range.contains offset = true → t.scopes = around offset

section Carries

variable {around around' : Nat → ScopeStack} {a b c offset : Nat} {tokens more : List Token}
  {t : Token}

/-- Without tokens there is nothing to carry. -/
theorem carries_nil (around : Nat → ScopeStack) (a : Nat) : Carries around a a [] :=
  ⟨inRow_nil.2 rfl, by simp⟩

/-- One token carries the same scopes through all of its range. -/
theorem carries_singleton (hlt : t.range.start < t.range.stop)
    (hscopes : ∀ offset, t.range.start ≤ offset → offset < t.range.stop →
      t.scopes = around offset) : Carries around t.range.start t.range.stop [t] := by
  refine ⟨inRow_singleton.2 ⟨rfl, hlt, rfl⟩, fun u hu offset hin => ?_⟩
  obtain rfl := List.mem_singleton.1 hu
  have hbounds := Text.Span.contains_iff.1 hin
  exact hscopes offset hbounds.1 hbounds.2

/-- What two parts carry one behind the other they carry together. -/
theorem Carries.append (h : Carries around a b tokens) (h' : Carries around b c more) :
    Carries around a c (tokens ++ more) := by
  refine ⟨h.row.append h'.row, fun t ht => ?_⟩
  rcases List.mem_append.1 ht with ht | ht
  · exact h.scopes t ht
  · exact h'.scopes t ht

/-- A row is cut in two at any of its tokens. -/
theorem Carries.exists_of_append (h : Carries around a c (tokens ++ more)) :
    ∃ b, Carries around a b tokens ∧ Carries around b c more := by
  obtain ⟨b, hfront, hback⟩ := h.row.exists_of_append
  exact ⟨b, ⟨hfront, fun t ht => h.scopes t (List.mem_append_left _ ht)⟩,
    hback, fun t ht => h.scopes t (List.mem_append_right _ ht)⟩

/-- What is around bytes elsewhere does not matter. -/
theorem Carries.congr (h : Carries around a b tokens)
    (heq : ∀ offset, a ≤ offset → offset < b → around offset = around' offset) :
    Carries around' a b tokens := by
  refine ⟨h.row, fun t ht offset hin => ?_⟩
  obtain ⟨hle, hlt⟩ := h.row.bounds_of_mem ht hin
  exact (h.scopes t ht offset hin).trans (heq offset hle hlt)

/-- A token carries the stack that is around all of its range. -/
theorem carries_tokenOf {stack : ScopeStack} (hle : a ≤ b)
    (hscopes : ∀ offset, a ≤ offset → offset < b → stack = around offset) :
    Carries around a b (tokenOf a b stack) := by
  unfold tokenOf
  split
  · rename_i hlt
    exact carries_singleton (t := ⟨⟨a, b⟩, stack⟩) hlt hscopes
  · obtain rfl : a = b := by omega
    exact carries_nil around a

/-- The tokens of a row carry the scopes that the token around each byte has. -/
theorem InRow.carries (h : InRow a b tokens) :
    Carries (fun offset => ((tokenAt? tokens offset).map (·.scopes)).getD []) a b
      tokens := by
  refine ⟨h, fun t ht offset hin => ?_⟩
  rw [h.tokenAt?_of_mem ht hin, Option.map_some, Option.getD_some]

/-- The token around a byte has the scopes of the byte. -/
theorem Carries.tokenAt? (h : Carries around a b tokens) (hle : a ≤ offset) (hlt : offset < b) :
    (tokenAt? tokens offset).map (·.scopes) = some (around offset) := by
  obtain ⟨t, ht⟩ := Option.isSome_iff_exists.1 (h.row.tokenAt?_isSome_iff.2 ⟨hle, hlt⟩)
  have hin : t.range.contains offset = true :=
    List.find?_some (p := fun t : Token => t.range.contains offset) ht
  rw [ht, Option.map_some, h.scopes t (List.mem_of_find?_eq_some ht) offset hin]

end Carries

/-! ## Numbers of scopes -/

/-- Scopes that are told apart by their numbers. -/
def ToldApart (scopes : List Scope) : Prop :=
  ∀ s ∈ scopes, ∀ t ∈ scopes, s.number = t.number → s = t

/-- One more scope is told apart if its number is new. -/
theorem ToldApart.cons {scopes : List Scope} (h : ToldApart scopes) {s : Scope}
    (hs : ∀ t ∈ scopes, t.number ≠ s.number) : ToldApart (s :: scopes) := by
  intro t ht u hu heq
  rcases List.mem_cons.1 ht with rfl | htmem <;> rcases List.mem_cons.1 hu with rfl | humem
  · rfl
  · exact absurd heq.symm (hs u humem)
  · exact absurd heq (hs t htmem)
  · exact h t htmem u humem heq

/-- Scopes that are told apart by numbers below a given one, which is free for a new scope. -/
structure Numbered (number : Nat) (scopes : List Scope) : Prop where
  toldApart : ToldApart scopes
  fresh : ∀ s ∈ scopes, s.number < number

/-- Scopes that are numbered below a number are so below a larger one. -/
theorem Numbered.mono {n number : Nat} {scopes : List Scope} (h : Numbered n scopes)
    (hle : n ≤ number) : Numbered number scopes :=
  ⟨h.toldApart, fun s hs => Nat.lt_of_lt_of_le (h.fresh s hs) hle⟩

/-- A scope with a new number can be put in front. -/
theorem Numbered.cons {number : Nat} {scopes : List Scope} (h : Numbered number scopes) {s : Scope}
    (hs : ∀ t ∈ scopes, t.number ≠ s.number) (hlt : s.number < number) :
    Numbered number (s :: scopes) :=
  ⟨h.toldApart.cons hs, List.forall_mem_cons.2 ⟨hlt, h.fresh⟩⟩

/-- Some of the scopes that are told apart. -/
theorem Numbered.subset {number : Nat} {scopes fewer : List Scope} (h : Numbered number scopes)
    (hfewer : fewer ⊆ scopes) : Numbered number fewer :=
  ⟨fun s hs t ht => h.toldApart s (hfewer hs) t (hfewer ht), fun s hs => h.fresh s (hfewer hs)⟩

/-- Stacks of scopes that are told apart are the same if their numbers are. -/
theorem ToldApart.eq_of_numbers {known : List Scope} (h : ToldApart known) {s t : ScopeStack}
    (hs : s ⊆ known) (ht : t ⊆ known) (heq : s.map (·.number) = t.map (·.number)) : s = t := by
  induction s generalizing t with
  | nil => exact (List.map_eq_nil_iff.1 heq.symm).symm
  | cons a s ih =>
    obtain ⟨b, t, rfl, hb, hrest⟩ := List.map_eq_cons_iff.1 heq.symm
    rw [List.cons_subset] at hs ht
    rw [h a hs.1 b ht.1 hb.symm, ih hs.2 ht.2 hrest.symm]

/-! ## Taking up tokens -/

namespace TokenLine

variable {around : Nat → ScopeStack} {a b : Nat} {l : TokenLine} {t : Token} {known : List Scope}

/-- What is around a byte of a line. -/
def scopesAt? (l : TokenLine) (offset : Nat) : Option ScopeStack :=
  (tokenAt? l.tokens offset).map (·.scopes)

/-- What is around the bytes of a line that carries scopes. -/
theorem scopesAt?_of_carries (h : Carries around 0 b l.tokens) (offset : Nat) :
    l.scopesAt? offset = if offset < b then some (around offset) else none := by
  unfold scopesAt?
  split
  · rename_i hlt
    exact h.tokenAt? (Nat.zero_le _) hlt
  · rename_i hbehind
    rw [h.row.tokenAt?_eq_none (Or.inr (Nat.le_of_not_lt hbehind)), Option.map_none]

/-- A line that leads somewhere does not end with an empty token. -/
theorem dropEmptyEnd_of_inRow (h : InRow a b l.tokens) : l.dropEmptyEnd = l := by
  unfold TokenLine.dropEmptyEnd
  split
  · rfl
  · rename_i t rest hlatest
    have htokens : l.tokens = rest.reverse ++ [t] := by rw [tokens, hlatest]; simp
    obtain ⟨m, -, hlast⟩ := (htokens ▸ h).exists_of_append
    have hlt := inRow_singleton.1 hlast
    rw [if_neg (by simp only [Text.Span.isEmpty, decide_eq_true_eq]; omega)]

/-- A line is as long as its tokens lead. -/
theorem length_of_inRow (h : InRow 0 b l.tokens) : l.length = b := by
  unfold TokenLine.length
  split
  · rename_i hlatest
    rw [TokenLine.tokens, hlatest] at h
    exact inRow_nil.1 h
  · rename_i t rest hlatest
    have htokens : l.tokens = rest.reverse ++ [t] := by rw [tokens, hlatest]; simp
    obtain ⟨m, -, hlast⟩ := (htokens ▸ h).exists_of_append
    exact (inRow_singleton.1 hlast).2.2

/-- **Taking up a token keeps the scopes of all bytes**: a token that grows has the same scopes as
the one it grows by. -/
theorem merge?_carries (h : Carries around 0 a l.tokens) (ht : Carries around a b [t])
    (hknown : ToldApart known) (hl : l.Inside (· ⊆ known)) (hscopes : t.scopes ⊆ known) :
    ∃ l', l.merge? t = some l' ∧ Carries around 0 b l'.tokens := by
  have hdrop := dropEmptyEnd_of_inRow h.row
  obtain ⟨hstart, hlt, hstop⟩ := inRow_singleton.1 ht.row
  have hempty : ¬ t.range.isEmpty = true := by
    simp only [Text.Span.isEmpty, decide_eq_true_eq]; omega
  have hadd : l.add? t = some ⟨t :: l.latest⟩ := by
    simp only [TokenLine.add?, hdrop, length_of_inRow h.row, hstart, if_true]
  have hlonger : Carries around 0 b (TokenLine.tokens ⟨t :: l.latest⟩) := by
    simpa only [tokens, List.reverse_cons] using h.append ht
  simp only [TokenLine.merge?, hdrop, if_neg hempty, hadd]
  cases hlatest : l.latest with
  | nil => exact ⟨_, rfl, hlatest ▸ hlonger⟩
  | cons last rest =>
    dsimp only
    split
    · rename_i hgrows
      have htokens : l.tokens = rest.reverse ++ [last] := by rw [tokens, hlatest]; simp
      obtain ⟨m, hfront, hlast⟩ := (htokens ▸ h).exists_of_append
      have hm := inRow_singleton.1 hlast.row
      have hsame : last.scopes = t.scopes := by
        have hnumbers : last.scopes.map (·.number) = t.scopes.map (·.number) := by
          simpa [Token.hasSameScopes] using hgrows.2
        exact hknown.eq_of_numbers (hl last (hlatest ▸ List.mem_cons_self)) hscopes hnumbers
      refine ⟨_, rfl, ?_⟩
      have hgrown : Carries around m b
          [{ last with range := ⟨last.range.start, t.range.stop⟩ }] := by
        rw [← hm.1, ← hstop]
        have hboth : last.range.start < t.range.stop := by omega
        refine carries_singleton (t := ⟨⟨last.range.start, t.range.stop⟩, last.scopes⟩) hboth
          fun offset hle hbelow => ?_
        rcases Nat.lt_or_ge offset last.range.stop with hold | hnew
        · exact hlast.scopes last (by simp) offset (Text.Span.contains_iff.2 ⟨hle, hold⟩)
        · refine hsame.trans (ht.scopes t (by simp) offset (Text.Span.contains_iff.2 ⟨?_, hbelow⟩))
          omega
      simpa only [tokens, List.reverse_cons] using hfront.append hgrown
    · exact ⟨_, rfl, hlatest ▸ hlonger⟩

/-- **Taking up a row of tokens keeps the scopes of all bytes.** -/
theorem mergeAll?_carries {tokens : List Token} (h : Carries around 0 a l.tokens)
    (ht : Carries around a b tokens) (hknown : ToldApart known) (hl : l.Inside (· ⊆ known))
    (hscopes : ∀ t ∈ tokens, t.scopes ⊆ known) :
    ∃ l', l.mergeAll? tokens = some l' ∧ Carries around 0 b l'.tokens := by
  unfold TokenLine.mergeAll?
  induction tokens generalizing l a with
  | nil => exact ⟨l, rfl, (inRow_nil.1 ht.row) ▸ h⟩
  | cons t tokens ih =>
    obtain ⟨htscopes, hrest⟩ := List.forall_mem_cons.1 hscopes
    have hcut : Carries around a b ([t] ++ tokens) := ht
    obtain ⟨m, hone, hmore⟩ := hcut.exists_of_append
    obtain ⟨l', hl', h'⟩ := merge?_carries h hone hknown hl htscopes
    rw [List.foldlM_cons, hl']
    exact ih h' hmore (hl.merge? htscopes hl') hrest

end TokenLine

end ScopePaint
