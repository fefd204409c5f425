import ScopePaint.Proofs.Document.FromScratch
import ScopePaint.Proofs.Document.Styling

/-!
# How much is tokenized again

Where lines that are up to date are followed from a stale one on, lines are tokenized up to and
including the first one that ends as it did before (`convergence`). So after lines of a document that
was up to date are replaced, the new lines are tokenized; and if the last of them does not end as the
last one in front of the cut did, so are the lines behind, until one of them ends as before
(`Refreshed.tokenized_carry`). After lines are only taken out, the line behind starts elsewhere and is
tokenized in any case (`Refreshed.tokenized_markFirst`).

Asking for a line looks at no line behind it: it does the same in the document that ends with that
line (`Document.tokens_upTo`). And it does nothing where the line is up to date already, which it is
once it was asked for, until the document is edited (`Document.Asked.tokens_eq`).
-/

set_option autoImplicit false

namespace ScopePaint

/-- How many of some lines are tokenized if the first of them is, given what they were before and what
they are then: all up to and including the first that ends as it did before, or all of them. -/
def convergence : List DocumentLine → List DocumentLine → Nat
  | line :: rest, fresh :: freshRest =>
    if line.endsLike fresh then 1 else convergence rest freshRest + 1
  | _, _ => 0

namespace Refreshed

variable {id : Nat} {theme : Theme} {start : Option LineState} {lib : Library}
  {lines rest behind : List DocumentLine} {line old : DocumentLine} {n : Nat}

/-! ## One line after the other -/

/-- A stale line is tokenized, and the one behind it is made stale unless it ends as before. -/
theorem ofLines_stale (hstale : line.stale = true)
    (hok : (ofLines id theme (n + 1) start lib (line :: rest)).outcome = .ok ()) :
    ∃ fresh lib', ofLines id theme (n + 1) start lib (line :: rest) =
      (ofLines id theme n fresh.endState lib'
        (if line.endsLike fresh then rest else markFirst rest)).cons fresh 1 := by
  rw [ofLines, if_pos hstale] at hok ⊢
  cases htokenize : line.tokenize lib id theme start with
  | mk outcome lib' =>
    rw [htokenize] at hok
    cases outcome with
    | error e => exact absurd hok (by simp)
    | ok fresh => exact ⟨fresh, lib', rfl⟩

/-- Lines that are not stale are not tokenized. -/
theorem tokenized_of_fresh (hfresh : ∀ line ∈ lines, line.stale = false) (n : Nat)
    (start : Option LineState) (lib : Library) :
    (ofLines id theme n start lib lines).tokenized = 0 := by
  induction lines generalizing n start with
  | nil => rw [ofLines_nil]
  | cons line rest ih =>
    obtain ⟨hline, hrest⟩ := List.forall_mem_cons.1 hfresh
    cases n with
    | zero => rw [ofLines]
    | succ n =>
      rw [ofLines, if_neg (by simp [hline])]
      exact ih hrest n line.endState

/-- **From a line that was made stale on, lines are tokenized until one ends as before.** -/
theorem tokenized_markFirst (hfresh : ∀ line ∈ lines, line.stale = false)
    (hn : lines.length ≤ n)
    (hok : (ofLines id theme n start lib (markFirst lines)).outcome = .ok ()) :
    (ofLines id theme n start lib (markFirst lines)).tokenized =
      convergence lines (ofLines id theme n start lib (markFirst lines)).lines := by
  induction lines generalizing n start lib with
  | nil => rw [markFirst, ofLines_nil, convergence]; simp
  | cons line rest ih =>
    obtain ⟨-, hrest⟩ := List.forall_mem_cons.1 hfresh
    obtain ⟨m, rfl⟩ : ∃ m, n = m + 1 := ⟨n - 1, by rw [List.length_cons] at hn; omega⟩
    have hm : rest.length ≤ m := Nat.le_of_succ_le_succ hn
    rw [markFirst] at hok ⊢
    obtain ⟨fresh, lib', hwork⟩ := ofLines_stale rfl hok
    have hlike : line.markStale.endsLike fresh = line.endsLike fresh := rfl
    rw [hlike] at hwork
    rw [hwork] at hok ⊢
    dsimp only [cons, convergence] at hok ⊢
    cases hends : line.endsLike fresh with
    | true =>
      rw [if_pos rfl, if_pos rfl, tokenized_of_fresh hrest]
    | false =>
      rw [hends, if_neg Bool.false_ne_true] at hok
      rw [if_neg Bool.false_ne_true, if_neg Bool.false_ne_true, ih hrest hm hok]

/-- The lines that are put in are stale already. -/
theorem markFirst_carry (state : Option LineState) (text : String) (texts : List String)
    (behind : List DocumentLine) :
    markFirst (Document.carry state ((text :: texts).map .ofText) ++ behind) =
      Document.carry state ((text :: texts).map .ofText) ++ behind := by
  cases texts <;> rfl

/-- **All lines that are put in are tokenized**, and lines behind them only if the last one does not
end like the one it is compared with, until one ends as before. -/
theorem tokenized_carry {texts : List String} (htexts : texts ≠ [])
    (hfresh : ∀ line ∈ behind, line.stale = false) (hn : texts.length + behind.length ≤ n)
    (hok : (ofLines id theme n start lib
      (Document.carry old.endState (texts.map .ofText) ++ behind)).outcome = .ok ()) :
    let r := ofLines id theme n start lib
      (Document.carry old.endState (texts.map .ofText) ++ behind)
    ∃ last, r.lines[texts.length - 1]? = some last ∧
      r.tokenized = texts.length +
        if old.endsLike last then 0 else convergence behind (r.lines.drop texts.length) := by
  dsimp only
  induction texts generalizing n start lib with
  | nil => exact absurd rfl htexts
  | cons text texts ih =>
    obtain ⟨m, rfl⟩ : ∃ m, n = m + 1 := ⟨n - 1, by rw [List.length_cons] at hn; omega⟩
    have hm : texts.length + behind.length ≤ m := by rw [List.length_cons] at hn; omega
    cases texts with
    | nil =>
      have hcarry : Document.carry old.endState ([text].map .ofText) ++ behind =
          { DocumentLine.ofText text with endState := old.endState } :: behind := rfl
      rw [hcarry] at hok ⊢
      obtain ⟨fresh, lib', hwork⟩ := ofLines_stale rfl hok
      -- The only line is compared with the one whose end was carried over.
      have hlike : ({ DocumentLine.ofText text with endState := old.endState } :
          DocumentLine).endsLike fresh = old.endsLike fresh := rfl
      rw [hlike] at hwork
      rw [hwork] at hok ⊢
      refine ⟨fresh, rfl, ?_⟩
      simp only [cons, List.length_singleton, List.drop_succ_cons, List.drop_zero] at hok ⊢
      cases hends : old.endsLike fresh with
      | true => rw [if_pos rfl, if_pos rfl, tokenized_of_fresh hfresh]
      | false =>
        rw [hends, if_neg Bool.false_ne_true] at hok
        rw [if_neg Bool.false_ne_true, if_neg Bool.false_ne_true,
          tokenized_markFirst hfresh (by simpa using hm) hok, Nat.add_comm]
    | cons next texts =>
      have hcarry : Document.carry old.endState ((text :: next :: texts).map .ofText) ++ behind =
          .ofText text ::
            (Document.carry old.endState ((next :: texts).map .ofText) ++ behind) := rfl
      rw [hcarry] at hok ⊢
      obtain ⟨fresh, lib', hwork⟩ := ofLines_stale rfl hok
      -- Nothing was known of the end of the line, so the one behind it is made stale.
      have hlike : (DocumentLine.ofText text).endsLike fresh = false := rfl
      rw [hlike, if_neg Bool.false_ne_true, markFirst_carry] at hwork
      rw [hwork] at hok ⊢
      obtain ⟨last, hlast, hcount⟩ := ih (by simp) hm hok
      refine ⟨last, hlast, ?_⟩
      simp only [cons, List.length_cons, List.drop_succ_cons] at hcount ⊢
      omega

/-! ## Lines that are not asked for -/

/-- Marking the first line once is enough. -/
theorem markFirst_markFirst (lines : List DocumentLine) :
    markFirst (markFirst lines) = markFirst lines := by
  cases lines <;> rfl

/-- The first lines are marked as they are among all of them. -/
theorem take_markFirst (n : Nat) (lines : List DocumentLine) :
    (markFirst lines).take n = markFirst (lines.take n) := by
  cases n <;> cases lines <;> rfl

/-- Making the first line stale leaves the lines behind as they are. -/
theorem drop_markFirst (n : Nat) (lines : List DocumentLine) :
    (markFirst lines).drop n = lines.drop n ∨ (markFirst lines).drop n = markFirst (lines.drop n) := by
  cases lines with
  | nil => exact Or.inr (by simp [markFirst])
  | cons line rest =>
    cases n with
    | zero => exact Or.inr rfl
    | succ n => exact Or.inl rfl

/-- **Bringing lines up to date looks at no other lines.** -/
theorem ofLines_take (n : Nat) (start : Option LineState) (lib : Library)
    (lines : List DocumentLine) :
    ofLines id theme n start lib (lines.take n) =
      { ofLines id theme n start lib lines with
        lines := (ofLines id theme n start lib lines).lines.take n } := by
  induction n generalizing start lib lines with
  | zero => simp only [ofLines, List.take_zero]
  | succ n ih =>
    cases lines with
    | nil => simp only [List.take_nil, ofLines_nil]
    | cons line rest =>
      rw [List.take_succ_cons]
      cases hstale : line.stale with
      | false =>
        rw [ofLines, if_neg (by simp [hstale]), ofLines, if_neg (by simp [hstale]), ih]
        rfl
      | true =>
        rw [ofLines, if_pos hstale, ofLines, if_pos hstale]
        cases line.tokenize lib id theme start with
        | mk outcome lib' =>
          cases outcome with
          | error e => rfl
          | ok fresh =>
            have hbehind : (if line.endsLike fresh then rest.take n else markFirst (rest.take n)) =
                (if line.endsLike fresh then rest else markFirst rest).take n := by
              split
              · rfl
              · rw [take_markFirst]
            dsimp only
            rw [hbehind, ih]
            rfl

/-- **Lines behind those that are brought up to date keep everything**, except that the first of them
may be made stale. -/
theorem drop_ofLines (n : Nat) (start : Option LineState) (lib : Library)
    (lines : List DocumentLine) :
    (ofLines id theme n start lib lines).lines.drop n = lines.drop n ∨
      (ofLines id theme n start lib lines).lines.drop n = markFirst (lines.drop n) := by
  induction n generalizing start lib lines with
  | zero => exact Or.inl (by rw [ofLines])
  | succ n ih =>
    cases lines with
    | nil => exact Or.inl (by rw [ofLines_nil])
    | cons line rest =>
      cases hstale : line.stale with
      | false =>
        rw [ofLines, if_neg (by simp [hstale])]
        exact ih line.endState lib rest
      | true =>
        rw [ofLines, if_pos hstale]
        cases line.tokenize lib id theme start with
        | mk outcome lib' =>
          cases outcome with
          | error e => exact Or.inl rfl
          | ok fresh =>
            simp only [cons, List.drop_succ_cons]
            cases line.endsLike fresh with
            | true => exact ih fresh.endState lib' rest
            | false =>
              rw [if_neg Bool.false_ne_true]
              rcases ih fresh.endState lib' (markFirst rest) with h | h <;> rw [h]
              · exact drop_markFirst n rest
              · rcases drop_markFirst n rest with hrest | hrest <;> rw [hrest]
                · exact Or.inr rfl
                · exact Or.inr (markFirst_markFirst _)

end Refreshed

/-! ## Documents -/

/-- Where all lines are settled none of them is stale. -/
theorem Settled.forall_fresh {lines : List DocumentLine} (h : Settled lines.length lines) :
    ∀ line ∈ lines, line.stale = false := by
  induction lines with
  | nil => exact fun line hline => absurd hline List.not_mem_nil
  | cons line rest ih => exact List.forall_mem_cons.2 ⟨h.1, ih h.2⟩

namespace Document

variable {base lib lib' : Library} {id index : Nat} {d d' : Document} {theme : Theme}
  {texts : List String}

/-- Lines that are up to date have ends that are known. -/
theorem ends_known_of_coherent {start : Option LineState} {lines : List DocumentLine}
    (h : Coherent base id theme start lines) (hfresh : ∀ line ∈ lines, line.stale = false) :
    ∀ line ∈ lines, ∃ state, line.endState = some state := by
  induction lines generalizing start with
  | nil => exact fun line hline => absurd hline List.not_mem_nil
  | cons line rest ih =>
    obtain ⟨-, hline, hrest⟩ := h
    obtain ⟨hstale, hstales⟩ := List.forall_mem_cons.1 hfresh
    obtain ⟨result, -, tokens, state, -, hstate, -⟩ := hline hstale
    exact List.forall_mem_cons.2 ⟨⟨state, hstate⟩, ih hrest hstales⟩

/-- After a document was styled as a whole, all of its lines are up to date. -/
theorem Stands.all_fresh (h : Stands base id theme texts lib d) (hs : base.Sound)
    {selection : Option Text.Span} {t : StyledText} (hstyled : d.styled lib selection =
      (.ok t, lib', d')) :
    d'.valid = d'.lines.length ∧ (∀ line ∈ d'.lines, line.stale = false) ∧
      ∀ line ∈ d'.lines, ∃ state, line.endState = some state := by
  obtain ⟨hok, rfl, -⟩ := of_styled hstyled
  have hsound := h.sound.refresh hs h.queried (d.lines.length - 1)
  have hvalid : (d.refresh lib (d.lines.length - 1)).2.2.valid =
      (d.refresh lib (d.lines.length - 1)).2.2.lines.length := by
    refine Nat.le_antisymm hsound.settled.le_length ?_
    rw [length_refresh]
    by_contra hlt
    have hlast : d.lines.length - 1 < (d.refresh lib (d.lines.length - 1)).2.2.valid :=
      lt_valid_refresh hok (Nat.le_refl _) (by omega)
    omega
  have hfresh := Settled.forall_fresh (hvalid ▸ hsound.settled)
  exact ⟨hvalid, hfresh, ends_known_of_coherent hsound.coherent hfresh⟩

/-- Styling a document whose lines were up to date before some of them were replaced brings the new
lines and those behind up to date, and no others. -/
theorem styled_replace (hvalid : d.valid = d.lines.length) {start stop : Nat}
    (hstart : start ≤ stop) (hstop : stop ≤ d.lines.length) {new : List String}
    {selection : Option Text.Span} {t : StyledText}
    (hstyled : (d.replace ⟨start, stop⟩ new).styled lib selection = (.ok t, lib', d')) :
    ∃ n state, new.length + (d.lines.drop stop).length ≤ n ∧
      let r := Refreshed.ofLines d.grammar d.theme n state lib
        (carry (d.stateBefore stop) (new.map .ofText) ++
          if new.isEmpty then Refreshed.markFirst (d.lines.drop stop) else d.lines.drop stop)
      r.outcome = .ok () ∧ d'.tokenized = d.tokenized + r.tokenized ∧
        d'.lines.drop start = r.lines := by
  obtain ⟨hok, rfl, -⟩ := of_styled hstyled
  have hmin : min stop d.lines.length = stop := Nat.min_eq_left hstop
  have hmin' : min start stop = start := Nat.min_eq_left hstart
  have hfront : (d.lines.take start).length = start :=
    List.length_take_of_le (Nat.le_trans hstart hstop)
  have hlines : (d.replace ⟨start, stop⟩ new).lines = d.lines.take start ++
      (carry (d.stateBefore stop) (new.map .ofText) ++
        if new.isEmpty then Refreshed.markFirst (d.lines.drop stop) else d.lines.drop stop) := by
    simp only [replace, hmin, hmin', List.append_assoc]
  have hvalid' : (d.replace ⟨start, stop⟩ new).valid = start := by
    simp only [replace, hmin, hmin', hvalid]
    omega
  refine ⟨(d.replace ⟨start, stop⟩ new).lines.length - 1 + 1 - start,
    (d.replace ⟨start, stop⟩ new).stateBefore start, ?_, ?_⟩
  · have hlength := congrArg List.length (map_text_replace d ⟨start, stop⟩ new)
    simp only [List.length_map, spliced, List.length_append, List.length_take, List.length_drop,
      hmin, hmin'] at hlength
    rw [List.length_drop]
    omega
  · have hdrop := congrArg (List.drop start) hlines
    have htake := congrArg (List.take start) hlines
    rw [List.drop_left' hfront] at hdrop
    rw [List.take_left' hfront] at htake
    unfold refresh at hok ⊢
    simp only [hvalid', hdrop, htake] at hok ⊢
    exact ⟨hok, rfl, List.drop_left' hfront⟩

/-! ## Asking for a line -/

/-- The document that ends with a line. -/
def upTo (d : Document) (index : Nat) : Document := { d with lines := d.lines.take (index + 1) }

/-- The state in front of a line is the same once the lines behind it are left out. -/
theorem stateBefore_upTo {n : Nat} (h : n ≤ index + 1) :
    (d.upTo index).stateBefore n = d.stateBefore n := by
  cases n with
  | zero => rfl
  | succ n =>
    have hn : (d.lines.take (index + 1))[n]? = d.lines[n]? := List.getElem?_take_of_lt (by omega)
    simp only [stateBefore, upTo, hn]

/-- Bringing the lines up to an index up to date does not depend on the lines behind. -/
theorem refresh_upTo (hle : d.valid ≤ d.lines.length) (lib : Library) (index : Nat) :
    (d.upTo index).refresh lib index = ((d.refresh lib index).1, (d.refresh lib index).2.1,
      (d.refresh lib index).2.2.upTo index) := by
  rcases Nat.lt_or_ge index d.valid with hvalid | hvalid
  · rw [refresh_of_lt_valid hvalid, refresh_of_lt_valid (d := d.upTo index) hvalid]
  · have hstate : (d.upTo index).stateBefore d.valid = d.stateBefore d.valid :=
      stateBefore_upTo (by omega)
    have hdrop : (d.upTo index).lines.drop d.valid =
        (d.lines.drop d.valid).take (index + 1 - d.valid) := List.drop_take
    have hfront : (d.lines.take d.valid).length = d.valid := List.length_take_of_le hle
    have htake : ∀ behind : List DocumentLine, (d.lines.take d.valid ++ behind).take (index + 1) =
        (d.upTo index).lines.take d.valid ++ behind.take (index + 1 - d.valid) := by
      intro behind
      rw [List.take_append, hfront, upTo, List.take_take, List.take_take, Nat.min_comm]
    have hvalid' : (d.upTo index).valid = d.valid := rfl
    have hgrammar : (d.upTo index).grammar = d.grammar := rfl
    have htheme : (d.upTo index).theme = d.theme := rfl
    unfold refresh
    rw [hvalid', hgrammar, htheme, hstate, hdrop, Refreshed.ofLines_take]
    generalize Refreshed.ofLines d.grammar d.theme (index + 1 - d.valid) (d.stateBefore d.valid) lib
      (d.lines.drop d.valid) = r
    refine Prod.ext rfl (Prod.ext rfl ?_)
    show ({ d with
        lines := (d.upTo index).lines.take d.valid ++ r.lines.take (index + 1 - d.valid)
        valid := d.valid + r.valid
        tokenized := d.tokenized + r.tokenized } : Document) =
      { d with
        lines := (d.lines.take d.valid ++ r.lines).take (index + 1)
        valid := d.valid + r.valid
        tokenized := d.tokenized + r.tokenized }
    rw [htake]

/-- **Asking for a line is asking for it in the document that ends there**: the answer, what becomes
of the library and how many lines are tokenized do not depend on the lines behind. -/
theorem tokens_upTo (hle : d.valid ≤ d.lines.length) (lib : Library) (index : Nat) :
    (d.upTo index).tokens lib index = ((d.tokens lib index).1, (d.tokens lib index).2.1,
      (d.tokens lib index).2.2.upTo index) := by
  have hline : ∀ d' : Document, ((d'.upTo index).lines)[index]? = d'.lines[index]? :=
    fun d' => List.getElem?_take_of_lt (Nat.lt_succ_self index)
  unfold tokens
  rw [refresh_upTo hle]
  cases d.refresh lib index with
  | mk outcome rest =>
    cases outcome with
    | error e => rfl
    | ok _ =>
      dsimp only
      rw [hline]

/-- **The lines behind the one that is asked for keep everything**, except that the first of them may
be made stale. -/
theorem drop_tokens (hle : d.valid ≤ d.lines.length) (lib : Library) (index : Nat) :
    (d.tokens lib index).2.2.lines.drop (index + 1) = d.lines.drop (index + 1) ∨
      (d.tokens lib index).2.2.lines.drop (index + 1) =
        Refreshed.markFirst (d.lines.drop (index + 1)) := by
  rw [tokens_snd]
  rcases Nat.lt_or_ge index d.valid with hvalid | hvalid
  · rw [refresh_of_lt_valid hvalid]
    exact Or.inl rfl
  · have hfront : (d.lines.take d.valid).length = d.valid := List.length_take_of_le hle
    have hnone : (d.lines.take d.valid).drop (index + 1) = [] := by
      rw [List.drop_eq_nil_iff]
      omega
    have hbehind : (d.lines.drop d.valid).drop (index + 1 - d.valid) = d.lines.drop (index + 1) := by
      rw [List.drop_drop, Nat.add_sub_cancel' (by omega)]
    unfold refresh
    dsimp only
    rw [List.drop_append, hnone, hfront, List.nil_append, ← hbehind]
    exact Refreshed.drop_ofLines _ _ _ _

/-- A call that edits nothing. -/
def Call.asks : Call → Bool
  | replace _ _ | setTheme _ => false
  | tokens _ | styleLine _ _ | styled _ => true

/-- What becomes of a library and a document through calls that edit nothing. The library may be
asked for rules in between. -/
inductive Asked (lib : Library) (d : Document) : Library → Document → Prop
  | refl : Asked lib d lib d
  | queried {lib' lib'' : Library} {d' : Document} (h : Asked lib d lib' d')
      (hq : lib'.Queried lib'') : Asked lib d lib'' d'
  | call {lib' : Library} {d' : Document} (h : Asked lib d lib' d') (c : Call)
      (hc : c.asks = true) : Asked lib d (c.run lib' d').1 (c.run lib' d').2

/-- Nothing is to be done for a line that was asked for: it is up to date, or there is no such line
and all lines are up to date. -/
def IsDone (d : Document) (index : Nat) : Prop :=
  index < d.valid ∨ d.lines.length ≤ min d.valid index

/-- Nothing is done for a line that is up to date. -/
theorem IsDone.refresh_eq (h : d.IsDone index) (lib : Library) :
    d.refresh lib index = (.ok (), lib, d) := by
  rcases h with hvalid | hall
  · exact refresh_of_lt_valid hvalid lib
  · have hnone : d.lines.drop d.valid = [] := List.drop_eq_nil_iff.2 (by omega)
    have htake : d.lines.take d.valid = d.lines := List.take_of_length_le (by omega)
    unfold Document.refresh
    rw [hnone, Refreshed.ofLines_nil, htake]
    simp

/-- After lines were brought up to date, nothing is to be done for them. -/
theorem isDone_refresh (h : (d.refresh lib index).1 = .ok ()) :
    (d.refresh lib index).2.2.IsDone index := by
  have hvalid := Refreshed.valid_ofLines _ _ _ _ h
  have hlength := length_refresh d lib index
  rw [List.length_drop] at hvalid
  unfold IsDone
  rw [hlength]
  unfold Document.refresh
  dsimp only
  rw [hvalid]
  omega

/-- What is done stays done, with the same line, whatever else is brought up to date. -/
theorem IsDone.refresh (h : d.IsDone index) (lib : Library) (other : Nat) :
    (d.refresh lib other).2.2.IsDone index ∧
      (d.refresh lib other).2.2.lines[index]? = d.lines[index]? := by
  have hlength := length_refresh d lib other
  have hvalid : d.valid ≤ (d.refresh lib other).2.2.valid := Nat.le_add_right _ _
  refine ⟨by unfold IsDone at h ⊢; omega, ?_⟩
  rcases Nat.lt_or_ge index d.lines.length with hin | hout
  · have hlt : index < d.valid := by unfold IsDone at h; omega
    have hfront : index < (d.lines.take d.valid).length := by
      rw [List.length_take]
      omega
    unfold Document.refresh
    dsimp only
    rw [List.getElem?_append_left hfront, List.getElem?_take_of_lt hlt]
  · rw [List.getElem?_eq_none (by omega), List.getElem?_eq_none (by omega)]

/-- A call that edits nothing brings some lines up to date. -/
theorem exists_refresh_of_asks {c : Call} (hc : c.asks = true) (lib : Library) (d : Document) :
    ∃ other, (c.run lib d).2 = (d.refresh lib other).2.2 := by
  cases c with
  | replace range texts => exact absurd hc (by simp [Call.asks])
  | setTheme theme => exact absurd hc (by simp [Call.asks])
  | tokens other =>
    have hrun := congrArg Prod.snd (tokens_snd d lib other)
    exact ⟨other, hrun⟩
  | styleLine other selected =>
    obtain ⟨warnings, hwarned⟩ := styleLine_snd d lib other selected
    have hrun := congrArg Prod.snd hwarned
    exact ⟨other, hrun⟩
  | styled selection =>
    obtain ⟨warnings, hwarned⟩ := styled_snd d lib selection
    have hrun := congrArg Prod.snd hwarned
    exact ⟨_, hrun⟩

/-- Calls that edit nothing leave a line that is up to date as it is. -/
theorem Asked.isDone (h : Asked lib d lib' d') (hdone : d.IsDone index) :
    d'.IsDone index ∧ d'.lines[index]? = d.lines[index]? := by
  induction h with
  | refl => exact ⟨hdone, rfl⟩
  | queried _ _ ih => exact ih
  | @call lib' d' _ c hc ih =>
    obtain ⟨other, hrun⟩ := exists_refresh_of_asks hc lib' d'
    obtain ⟨hdone', hline⟩ := ih.1.refresh lib' other
    rw [hrun]
    exact ⟨hdone', hline.trans ih.2⟩

/-- **Asking again for a line does nothing**, as long as nothing is edited: the answer is the same, no
line is tokenized, and nothing is asked of the library. -/
theorem Asked.tokens_eq {tokens : Option TokenLine}
    (h : d.tokens lib index = (.ok tokens, lib', d')) {lib'' : Library} {d'' : Document}
    (hasked : Asked lib' d' lib'' d'') : d''.tokens lib'' index = (.ok tokens, lib'', d'') := by
  have hline : (d.refresh lib index).1 = .ok () ∧ d' = (d.refresh lib index).2.2 ∧
      tokens = (d'.lines[index]?).bind (·.tokens) := by
    unfold Document.tokens at h
    split at h
    · exact absurd (congrArg Prod.fst h) (by simp)
    · rename_i hrefresh
      obtain ⟨htokens, hrest⟩ := Prod.mk.inj h
      obtain ⟨rfl, rfl⟩ := Prod.mk.inj hrest
      rw [hrefresh]
      exact ⟨rfl, rfl, (Except.ok.inj htokens).symm⟩
  obtain ⟨hok, rfl, rfl⟩ := hline
  obtain ⟨hdone, hsame⟩ := hasked.isDone (isDone_refresh hok)
  unfold Document.tokens
  rw [hdone.refresh_eq]
  dsimp only
  rw [hsame]

/-- What styling a document costs again after lines were put in the place of others, at least one of
which was there before the end of the cut. -/
theorem Stands.tokenized_replace (h : Stands base id theme texts lib d) (hs : base.Sound)
    (hvalid : d.valid = d.lines.length) (hfresh : ∀ line ∈ d.lines, line.stale = false)
    (hknown : ∀ line ∈ d.lines, ∃ state, line.endState = some state) {start stop : Nat}
    (hstart : start ≤ stop) (hstop : stop ≤ d.lines.length) (hpos : 0 < stop) {new : List String}
    (hnew : new ≠ []) {selection : Option Text.Span} {t : StyledText}
    (hstyled : (d.replace ⟨start, stop⟩ new).styled lib selection = (.ok t, lib', d')) :
    ∃ before after, ((d.lines[stop - 1]?).bind (·.endState)) = some before ∧
      ((d'.lines[start + new.length - 1]?).bind (·.endState)) = some after ∧
      d'.tokenized = d.tokenized + new.length +
        if before.isEquivalent after then 0
        else convergence (d.lines.drop stop) (d'.lines.drop (start + new.length)) := by
  have hlength : 0 < new.length := List.length_pos_iff.2 hnew
  obtain ⟨n, state, hn, hok, htokenized, hlines⟩ := styled_replace hvalid hstart hstop hstyled
  have hempty : new.isEmpty = false := List.isEmpty_eq_false_iff.2 hnew
  rw [hempty, if_neg Bool.false_ne_true] at hok htokenized hlines
  have hin : stop - 1 < d.lines.length := by omega
  -- The line before the end of the cut is the one whose end was carried over.
  obtain ⟨before, hbefore⟩ := hknown d.lines[stop - 1] (List.getElem_mem hin)
  have hcarried : d.stateBefore stop = d.lines[stop - 1].endState := by
    obtain ⟨m, rfl⟩ : ∃ m, stop = m + 1 := ⟨stop - 1, by omega⟩
    rw [stateBefore, List.getElem?_eq_getElem hstop]
    rfl
  rw [hcarried] at hok htokenized hlines
  have hbehind : ∀ line ∈ d.lines.drop stop, line.stale = false := fun line hline =>
    hfresh line (List.mem_of_mem_drop hline)
  obtain ⟨last, hlast, hcount⟩ := Refreshed.tokenized_carry hnew hbehind hn hok
  rw [← hlines] at hlast hcount
  rw [List.getElem?_drop, ← Nat.add_sub_assoc hlength] at hlast
  rw [List.drop_drop] at hcount
  obtain ⟨-, -, hends⟩ := (h.call hs (.replace ⟨start, stop⟩ new)).all_fresh hs hstyled
  obtain ⟨after, hafter⟩ := hends last (List.mem_of_getElem? hlast)
  have hlike : d.lines[stop - 1].endsLike last = before.isEquivalent after := by
    simp only [DocumentLine.endsLike, hbefore, hafter]
  refine ⟨before, after, ?_, ?_, ?_⟩
  · rw [List.getElem?_eq_getElem hin, Option.bind_some, hbefore]
  · rw [hlast, Option.bind_some, hafter]
  · rw [htokenized, hcount, hlike, Nat.add_assoc]

/-- What styling a document costs again after lines were taken out. -/
theorem tokenized_delete (hvalid : d.valid = d.lines.length)
    (hfresh : ∀ line ∈ d.lines, line.stale = false) {start stop : Nat} (hstart : start ≤ stop)
    (hstop : stop ≤ d.lines.length) {selection : Option Text.Span} {t : StyledText}
    (hstyled : (d.replace ⟨start, stop⟩ []).styled lib selection = (.ok t, lib', d')) :
    d'.tokenized = d.tokenized + convergence (d.lines.drop stop) (d'.lines.drop start) := by
  obtain ⟨n, state, hn, hok, htokenized, hlines⟩ := styled_replace hvalid hstart hstop hstyled
  simp only [List.isEmpty_nil, if_true, List.map_nil, carry, List.nil_append, List.length_nil,
    Nat.zero_add] at hn hok htokenized hlines
  have hbehind : ∀ line ∈ d.lines.drop stop, line.stale = false := fun line hline =>
    hfresh line (List.mem_of_mem_drop hline)
  rw [htokenized, hlines, Refreshed.tokenized_markFirst hbehind hn hok]

/-- **Tokenizing again stops at convergence.** Let any calls have led to a document, and let it be
styled as a whole. If lines are put in the place of others then, and the document can be styled
again, all of the new lines are tokenized, and lines behind them only if the end of the last new line
is not equivalent to the former end of the line before the end of the cut: up to and including the
first that ends as before, or all of them. If lines are only taken out, the line behind is tokenized
in any case. Asking for a line is asking for it in the document that ends there, and leaves what the
lines behind keep; and asking again, with nothing but other questions in between, does nothing. -/
theorem History.tokenized_until_convergence (hb : base.Built)
    (h : History base id theme texts lib d) :
    (∀ selection t lib₁ d₁, d.styled lib selection = (.ok t, lib₁, d₁) →
      ∀ lib₂, lib₁.Queried lib₂ → ∀ start stop new, start ≤ stop → stop ≤ d₁.lines.length →
      ∀ selection' t' lib₃ d₂,
        (d₁.replace ⟨start, stop⟩ new).styled lib₂ selection' = (.ok t', lib₃, d₂) →
        (new ≠ [] → start < stop ∨ 0 < start →
          ∃ before after, ((d₁.lines[stop - 1]?).bind (·.endState)) = some before ∧
            ((d₂.lines[start + new.length - 1]?).bind (·.endState)) = some after ∧
            d₂.tokenized = d₁.tokenized + new.length +
              if before.isEquivalent after then 0
              else convergence (d₁.lines.drop stop) (d₂.lines.drop (start + new.length))) ∧
        (new = [] → start < stop →
          d₂.tokenized = d₁.tokenized +
            convergence (d₁.lines.drop stop) (d₂.lines.drop start))) ∧
    ∀ index,
      ((d.upTo index).tokens lib index = ((d.tokens lib index).1, (d.tokens lib index).2.1,
        (d.tokens lib index).2.2.upTo index)) ∧
      ((d.tokens lib index).2.2.lines.drop (index + 1) = d.lines.drop (index + 1) ∨
        (d.tokens lib index).2.2.lines.drop (index + 1) =
          Refreshed.markFirst (d.lines.drop (index + 1))) ∧
      ∀ tokens lib₁ d₁, d.tokens lib index = (.ok tokens, lib₁, d₁) →
        ∀ lib₂ d₂, Asked lib₁ d₁ lib₂ d₂ → d₂.tokens lib₂ index = (.ok tokens, lib₂, d₂) := by
  have hs := hb.sound
  have hstands := h.stands hs
  refine ⟨?_, fun index => ?_⟩
  · intro selection t lib₁ d₁ hstyled lib₂ hq start stop new hstart hstop selection' t' lib₃ d₂
      hstyled'
    obtain ⟨hvalid, hfresh, hknown⟩ := hstands.all_fresh hs hstyled
    have hcall := hstands.call hs (.styled selection)
    dsimp only [Call.run] at hcall
    rw [hstyled] at hcall
    have hstands₁ := { hcall with queried := hcall.queried.trans hq }
    refine ⟨fun hnew hcut => ?_, fun hnew _ => ?_⟩
    · exact hstands₁.tokenized_replace hs hvalid hfresh hknown hstart hstop (by omega) hnew hstyled'
    · subst hnew
      exact tokenized_delete hvalid hfresh hstart hstop hstyled'
  · have hle := hstands.sound.settled.le_length
    exact ⟨tokens_upTo hle lib index, drop_tokens hle lib index,
      fun tokens lib₁ d₁ htokens lib₂ d₂ hasked => hasked.tokens_eq htokens⟩

/-- Styling that succeeds gives a text. -/
theorem styled_eq_of_isOk {selection : Option Text.Span}
    (h : (d.styled lib selection).1.isOk = true) :
    ∃ t, d.styled lib selection =
      (.ok t, (d.styled lib selection).2.1, (d.styled lib selection).2.2) := by
  cases hstyled : d.styled lib selection with
  | mk outcome rest =>
    rw [hstyled] at h
    cases outcome with
    | error e => exact absurd h (by simp [Except.isOk, Except.toBool])
    | ok t => exact ⟨t, rfl⟩

/-- A bracket that was open over three lines is taken out of the first one: only the third one ends as
before, so all three are tokenized again. -/
theorem History.tokenized_until_convergence_brackets :
    let first := (ofText 0 Theme.builtin "[a\nb\n]").styled bracketLibrary none
    let second := (first.2.2.replace ⟨0, 1⟩ ["a"]).styled first.2.1 none
    first.1.isOk = true ∧ second.1.isOk = true ∧ second.2.2.tokenized = first.2.2.tokenized + 3 ∧
      ∃ before after, ((first.2.2.lines[0]?).bind (·.endState)) = some before ∧
        ((second.2.2.lines[0]?).bind (·.endState)) = some after ∧
        second.2.2.tokenized = first.2.2.tokenized + 1 +
          if before.isEquivalent after then 0
          else convergence (first.2.2.lines.drop 1) (second.2.2.lines.drop 1) := by
  intro first second
  have hfirst : first.1.isOk = true := by decide +kernel
  have hsecond : second.1.isOk = true := by decide +kernel
  have hlength : 1 ≤ first.2.2.lines.length := by decide +kernel
  obtain ⟨t, hstyled⟩ := styled_eq_of_isOk hfirst
  obtain ⟨t', hstyled'⟩ := styled_eq_of_isOk hsecond
  have hstart : History bracketLibrary 0 Theme.builtin (splitLines "[a\nb\n]") bracketLibrary
      (.ofText 0 Theme.builtin "[a\nb\n]") := .start Theme.builtin "[a\nb\n]"
  have hcount := (tokenized_until_convergence built_bracketLibrary hstart).1 none t first.2.1
    first.2.2 hstyled first.2.1 (.refl _) 0 1 ["a"] (Nat.zero_le 1) hlength none t' second.2.1
    second.2.2 hstyled'
  exact ⟨hfirst, hsecond, by decide +kernel, hcount.1 (by simp) (Or.inl Nat.zero_lt_one)⟩

end Document

end ScopePaint
