import ScopePaint.Proofs.Document.FromScratch
import ScopePaint.Proofs.Library.Answers
import ScopePaint.Proofs.Library.Registering

/-!
# The order of registering

Registering grammars in another order gives them other numbers, and nothing that a library answers
shows these numbers: a grammar is chosen for a file or a first line by scope names in their order,
includes are followed by scope names, and rules that are kept are found again by places that are
renumbered one to one. So two libraries that hold the same grammars under other numbers start
documents in states that are alike (`AgreesUpTo.firstLineState_alike`), and cut a line into tokens
that are alike from there (`AgreesUpTo.tokenizeLines_alike`), whatever they were asked before. In
both runs scopes have the same numbers, as these are given within a document.
-/

set_option autoImplicit false

namespace ScopePaint

/-! ## Lines one after the other -/

namespace Library

/-- Cut lines into tokens one after the other from a state. -/
def tokenizeLines (id : Nat) (theme : Theme) (lib : Library) (state : LineState) :
    List (List Char) → Except Failure (List TokenLine) × Library
  | [] => (.ok [], lib)
  | line :: rest =>
    match lib.tokenizeLine id theme line state with
    | (.error e, lib) => (.error e, lib)
    | (.ok (tokens, next), lib) =>
      let (more, lib) := tokenizeLines id theme lib next rest
      (more.map (tokens :: ·), lib)

/-- Cut the lines of a document into tokens. -/
def tokenizeText (id : Nat) (theme : Theme) (lib : Library) (lines : List (List Char)) :
    Except Failure (List TokenLine) × Library :=
  match lib.firstLineState id theme with
  | (.error e, lib) => (.error e, lib)
  | (.ok state, lib) => tokenizeLines id theme lib state lines

/-- Lines are tokenized one after the other, until one fails. -/
theorem tokenizeLines_cons_fst (lib : Library) (id : Nat) (theme : Theme) (state : LineState)
    (line : List Char) (rest : List (List Char)) :
    (tokenizeLines id theme lib state (line :: rest)).1 = (do
      let (tokens, next) ← (lib.tokenizeLine id theme line state).1
      (tokenizeLines id theme (lib.tokenizeLine id theme line state).2 next rest).1.map
        (tokens :: ·)) := by
  rw [tokenizeLines]
  cases lib.tokenizeLine id theme line state with
  | mk outcome lib' => cases outcome <;> rfl

/-- A text is tokenized from the state in front of its first line. -/
theorem tokenizeText_fst (lib : Library) (id : Nat) (theme : Theme) (lines : List (List Char)) :
    (lib.tokenizeText id theme lines).1 = (do
      let state ← (lib.firstLineState id theme).1
      (tokenizeLines id theme (lib.firstLineState id theme).2 state lines).1) := by
  rw [tokenizeText]
  cases lib.firstLineState id theme with
  | mk outcome lib' => cases outcome <;> rfl

end Library

section Alike

variable {f : Nat → Nat} {same : Prop} {s t : ScopeStack} {l l' : TokenLine}

/-- Stacks with the same numbers have the same number free. -/
theorem ScopeStack.Alike.freshNumber (h : ScopeStack.Alike f Eq same s t) :
    ScopeStack.freshNumber s = ScopeStack.freshNumber t := by
  have hnumbers : s.map (·.number) = t.map (·.number) :=
    map_eq_map_of_forall₂ h fun _ _ hab => hab.number
  have hfold : ∀ stack : ScopeStack, stack.freshNumber =
      (stack.map (·.number)).foldl (fun n number => max n (number + 1)) 0 := by
    intro stack
    rw [List.foldl_map]
    rfl
  rw [hfold, hfold, hnumbers]

/-- Lines that are alike look the same under one theme. -/
theorem TokenLine.Alike.visible {R : Nat → Nat → Prop} (h : l.Alike f R True l') :
    l.visible = l'.visible :=
  map_eq_map_of_forall₂ h.tokens fun t u htu => by
    rw [htu.range, htu.scopes.map_name,
      map_eq_map_of_forall₂ htu.scopes fun _ _ hab => hab.style trivial]

end Alike

namespace Library

section Runs

variable {f : Nat → Nat} {base base' lib lib' : Library} {id : Nat} {theme : Theme}
  {a b : LineState}

/-- **Documents start in states that are alike**, or cannot be started for the same reason. -/
theorem AgreesUpTo.firstLineState_alike (h : AgreesUpTo f lib lib') (id : Nat) (theme : Theme) :
    SameOutcome (fun a b => ScopeStack.Alike f Eq True a.stack b.stack)
      (lib.firstLineState id theme).1 (lib'.firstLineState (f id) theme).1 := by
  rw [firstLineState_fst, firstLineState_fst, h.rules, h.grammars]
  cases (lib.rules id).1 with
  | error e => exact .error e
  | ok rules =>
    cases lib.grammar? id with
    | none => exact .error _
    | some g =>
      have hroot : Scope.Alike f Eq True (Scope.inside theme 0 (some g.scopeName) [])
          (Scope.inside theme 0 (some g.scopeName) []) :=
        Scope.inside_alike (fun _ => rfl) rfl .nil (some g.scopeName)
      exact .ok (.cons { hroot with rules := rfl } .nil)

/-- **Lines are cut into tokens that are alike from states that are alike**, or fail for the same
reason. -/
theorem AgreesUpTo.tokenizeLines_alike (h : AgreesUpTo f base base') (hs : base.Sound)
    (hs' : base'.Sound) (hq : base.Queried lib) (hq' : base'.Queried lib')
    (ha : a.stack.Shaped base id fun _ => True) (hb : b.stack.Shaped base' (f id) fun _ => True)
    (hab : ScopeStack.Alike f Eq True a.stack b.stack) (theme : Theme)
    (lines : List (List Char)) :
    SameOutcome (List.Forall₂ (TokenLine.Alike f Eq True))
      (tokenizeLines id theme lib a lines).1 (tokenizeLines (f id) theme lib' b lines).1 := by
  induction lines generalizing lib lib' a b with
  | nil => exact .ok .nil
  | cons line rest ih =>
    have hunique : Relator.BiUnique (@Eq Nat) :=
      ⟨fun _ _ _ h h' => h.trans h'.symm, fun _ _ _ h h' => h.symm.trans h'⟩
    have hfresh : Fresh Eq (ScopeStack.freshNumber a.stack) (ScopeStack.freshNumber b.stack) :=
      fun k => by rw [hab.freshNumber]
    have hline : SameOutcome
        (fun x y => x.1.Alike f Eq True y.1 ∧ ScopeStack.Alike f Eq True x.2.stack y.2.stack)
        (lib.tokenizeLine id theme line a).1 (lib'.tokenizeLine (f id) theme line b).1 :=
      tokenizeLine_alike h hs hs' hq hq' hunique (fun _ => rfl) ha hb hab hfresh line
    rw [tokenizeLines_cons_fst, tokenizeLines_cons_fst]
    refine hline.results.bind fun x y hxy => ?_
    obtain ⟨⟨htokens, hstacks⟩, hx, hy⟩ := hxy
    have hrest : SameOutcome (List.Forall₂ (TokenLine.Alike f Eq True))
        (tokenizeLines id theme (lib.tokenizeLine id theme line a).2 x.2 rest).1
        (tokenizeLines (f id) theme (lib'.tokenizeLine (f id) theme line b).2 y.2 rest).1 :=
      ih (queried_tokenizeLine hs hq ha line) (queried_tokenizeLine hs' hq' hb line)
        (shaped_tokenizeLine hs hq trivial ha hx) (shaped_tokenizeLine hs' hq' trivial hb hy)
        hstacks
    exact hrest.map fun _ _ hmore => .cons htokens hmore

/-- Documents are cut into tokens that are alike, or fail for the same reason. -/
theorem AgreesUpTo.tokenizeText_alike (h : AgreesUpTo f base base') (hs : base.Sound)
    (hs' : base'.Sound) (hq : base.Queried lib) (hq' : base'.Queried lib') (id : Nat)
    (theme : Theme) (lines : List (List Char)) :
    SameOutcome (List.Forall₂ (TokenLine.Alike f Eq True))
      (lib.tokenizeText id theme lines).1 (lib'.tokenizeText (f id) theme lines).1 := by
  have hfirst : SameOutcome (fun a b => ScopeStack.Alike f Eq True a.stack b.stack)
      (lib.firstLineState id theme).1 (lib'.firstLineState (f id) theme).1 :=
    (h.queried hs hs' hq hq').firstLineState_alike id theme
  rw [tokenizeText_fst, tokenizeText_fst]
  refine hfirst.results.bind fun a b hab => ?_
  obtain ⟨hstacks, ha, hb⟩ := hab
  exact h.tokenizeLines_alike hs hs' (queried_firstLineState hq) (queried_firstLineState hq')
    (shaped_firstLineState hs hq trivial ha) (shaped_firstLineState hs' hq' trivial hb) hstacks
    theme lines

end Runs

/-! ## Registering in two orders -/

end Library

end ScopePaint
