import ScopePaint.Proofs.Grammar.Renumbering
import ScopePaint.Proofs.Library.Destinations

/-!
# Libraries under other numbers

Two libraries hold the same grammars under other numbers (`Library.Renumbered`) if their scope names
stand for the same grammars, renumbered. Includes are followed by scope names, and how far a walk
may go depends on the sizes of the grammars only, so the walks of both libraries meet the same rules
(`Renumbered.findings`). As long as nothing is kept in either of them, they answer with the same
rules or the same errors (`Renumbered.agreesUpTo`); and as asking a library changes no answer, so do
whatever becomes of them while they are asked (`AgreesUpTo.queried`).
-/

set_option autoImplicit false

namespace ScopePaint

namespace Library

/-! ## The same grammars under other numbers -/

/-- Libraries in which the same scope names stand for the same grammars under other numbers, used in
the same way. -/
structure Renumbered (f : Nat → Nat) (a b : Library) : Prop where
  injective : Function.Injective f
  options : b.options = a.options
  ids : ∀ scope, b.id? scope = (a.id? scope).map f
  grammars : ∀ id, b.grammar? (f id) = (a.grammar? id).map (Grammar.renumber f)
  keyCount : ∀ g, b.keyCount (g.renumber f) = a.keyCount g
  regionCount : b.regionCount = a.regionCount

namespace Renumbered

variable {f : Nat → Nat} {a b a' b' : Library}

/-- A library is renumbered to itself. -/
theorem refl (a : Library) : Renumbered (fun n => n) a a where
  injective := Function.injective_id
  options := rfl
  ids := fun scope => by cases a.id? scope <;> rfl
  grammars := fun id => by cases a.grammar? id <;> simp
  keyCount := fun g => by rw [Grammar.renumber_self]
  regionCount := rfl

/-- What has the same grammars is related in the same way. -/
theorem of_sameGrammars (h : Renumbered f a b) (ha : SameGrammars a a') (hb : SameGrammars b b') :
    Renumbered f a' b' where
  injective := h.injective
  options := by rw [← hb.options, ← ha.options, h.options]
  ids := by rw [← hb.id?_eq, ← ha.id?_eq]; exact h.ids
  grammars := by rw [← hb.grammar?_eq, ← ha.grammar?_eq]; exact h.grammars
  keyCount := by rw [← hb.keyCount_eq, ← ha.keyCount_eq]; exact h.keyCount
  regionCount := by rw [← hb.regionCount_eq, ← ha.regionCount_eq, h.regionCount]

/-- A scope name stands for the renumbered grammar. -/
theorem find? (h : Renumbered f a b) (scope : String) :
    b.find? scope = (a.find? scope).map (Grammar.renumber f) := by
  unfold Library.find?
  rw [h.ids]
  cases a.id? scope with
  | none => rfl
  | some id => exact h.grammars id

/-- A grammar counts under its new number if it did under the old one. -/
theorem isRegistered (h : Renumbered f a b) (id : Nat) :
    b.isRegistered (f id) = a.isRegistered id := by
  unfold Library.isRegistered
  rw [h.grammars]
  cases a.grammar? id with
  | none => rfl
  | some g =>
    dsimp only [Option.map_some]
    rw [Grammar.scopeName_renumber, h.ids, Bool.eq_iff_iff, beq_iff_eq, beq_iff_eq,
      ← Option.map_some, (Option.map_injective h.injective).eq_iff]

/-! ## Walks -/

/-- Renumbering grammars renumbers what walks meet. -/
theorem change (f : Nat → Nat) :
    Change (Grammar.renumber f) (fun _ => Pattern.renumber f) (List.map (Finding.renumber f)) where
  scopeName := fun _ => rfl
  find? := Grammar.find?_renumber
  cycle := fun _ => rfl

/-- **The walks of both libraries meet the same rules.** -/
theorem expand (h : Renumbered f a b) (fuel : Nat) (visiting : List String) (g : Grammar)
    (patterns : List Pattern) :
    b.expand fuel visiting (g.renumber f) (Pattern.renumberAll f patterns) =
      (a.expand fuel visiting g patterns).map (Finding.renumber f) := by
  induction fuel generalizing visiting g patterns with
  | zero => rfl
  | succ fuel ih =>
    rw [Library.expand, Library.expand]
    refine Pattern.walkAll_renumber (fun target => ?_) patterns
    exact (change f).follow h.find? (fun visiting g => ih visiting g g.patterns)
      (fun visiting g p => ih visiting g [p]) visiting g target fun _ _ => rfl

/-- The findings are renumbered. -/
theorem findings (h : Renumbered f a b) (g : Grammar) (patterns : List Pattern) :
    b.findings (g.renumber f) (Pattern.renumberAll f patterns) =
      (a.findings g patterns).map (Finding.renumber f) := by
  unfold Library.findings
  rw [h.keyCount]
  exact h.expand _ [] g patterns

/-- Patterns stand for the same rules, or there is the same error. -/
theorem resolve (h : Renumbered f a b) (g : Grammar) (patterns : List Pattern) :
    (b.resolve (g.renumber f) (Pattern.renumberAll f patterns)).1 =
      (a.resolve g patterns).1.map fun rules => rules.map (Rule.renumber f) := by
  simp only [Library.resolve]
  rw [h.findings, h.options, Finding.rules_renumber]
  cases Finding.rules a.options.missing (a.findings g patterns) <;> rfl

/-- The regions of both libraries are the same, renumbered. -/
theorem mem_regions (h : Renumbered f a b) {e : RegionEntry} (he : e ∈ a.regions) :
    e.renumber f ∈ b.regions := by
  obtain ⟨m, hm, hem⟩ := List.mem_flatMap.1 he
  obtain ⟨id, hid⟩ := List.mem_iff_getElem?.1 hm
  have hgrammar := h.grammars id
  rw [Library.grammar?, Library.grammar?, hid, Option.map_some, Option.map_some] at hgrammar
  obtain ⟨m', hm', hg⟩ := Option.map_eq_some_iff.1 hgrammar
  refine List.mem_flatMap.2 ⟨m', List.mem_of_getElem? hm', ?_⟩
  rw [hg, Grammar.regions_renumber]
  exact List.mem_map_of_mem hem

end Renumbered

/-! ## The same answers -/

/-- Libraries that hold the same grammars under other numbers and give the same rules, renumbered, or
the same errors. -/
structure AgreesUpTo (f : Nat → Nat) (a b : Library) : Prop extends Renumbered f a b where
  rules : ∀ id, (b.rules (f id)).1 = (a.rules id).1.map fun rules => rules.map (Rule.renumber f)
  nested : ∀ e ∈ a.regions, (b.nestedRules (e.1.renumber f) (Pattern.renumberAll f e.2)).1 =
    (a.nestedRules e.1 e.2).1.map fun rules => rules.map (Rule.renumber f)

/-- A library that has not been asked for rules keeps none. -/
structure Unasked (lib : Library) : Prop where
  rules : ∀ m ∈ lib.members, m.rules = none
  nested : lib.nested = []

/-- As nothing is kept, the patterns of a registered grammar are resolved when it is asked for. -/
theorem Unasked.rules_fst {lib : Library} (h : lib.Unasked) {id : Nat} {g : Grammar}
    (hg : lib.grammar? id = some g) (hr : lib.isRegistered id = true) :
    (lib.rules id).1 = (lib.resolve g g.patterns).1 := by
  obtain ⟨m, hm, rfl⟩ := Option.map_eq_some_iff.1 hg
  rw [Library.rules_fst, hm]
  dsimp only
  rw [if_pos hr, h.rules m (List.mem_of_getElem? hm)]

/-- The same for the patterns of a region whose grammar is there. -/
theorem Unasked.nestedRules_fst {lib : Library} (h : lib.Unasked) {r : Region} {g : Grammar}
    (hg : lib.find? r.grammar.text = some g) (ps : List Pattern) :
    (lib.nestedRules r ps).1 = (lib.resolve g ps).1 := by
  rw [Library.nestedRules_fst, h.nested, List.lookup_nil]
  dsimp only
  rw [hg]

section Answers

variable {f : Nat → Nat} {a b a' b' : Library}

/-- **Libraries with the same grammars under other numbers agree** while they keep nothing. -/
theorem Renumbered.agreesUpTo (h : Renumbered f a b) (ha : a.Unasked) (hb : b.Unasked) :
    AgreesUpTo f a b where
  toRenumbered := h
  rules := by
    intro id
    have hgrammar := h.grammars id
    rw [grammar?, grammar?] at hgrammar
    rw [rules_fst, rules_fst, h.isRegistered]
    cases hm : a.members[id]? with
    | none =>
      rw [hm, Option.map_none, Option.map_none, Option.map_eq_none_iff] at hgrammar
      rw [hgrammar]
      rfl
    | some m =>
      rw [hm, Option.map_some, Option.map_some] at hgrammar
      obtain ⟨m', hm', hg⟩ := Option.map_eq_some_iff.1 hgrammar
      rw [hm']
      dsimp only
      rw [ha.rules m (List.mem_of_getElem? hm), hb.rules m' (List.mem_of_getElem? hm'), hg]
      split
      · exact h.resolve m.grammar m.grammar.patterns
      · rfl
  nested := by
    intro e _
    rw [nestedRules_fst, nestedRules_fst, ha.nested, hb.nested]
    dsimp only [List.lookup_nil]
    have hfind : b.find? (e.1.renumber f).grammar.text =
      (a.find? e.1.grammar.text).map (Grammar.renumber f) := h.find? e.1.grammar.text
    rw [hfind]
    cases a.find? e.1.grammar.text with
    | none => rfl
    | some g => exact h.resolve g e.2

/-- A library agrees with itself. -/
theorem AgreesUpTo.refl (a : Library) : AgreesUpTo (fun n => n) a a := by
  have hself : ∀ answer : Except Failure (List Rule),
      (answer.map fun rules => rules.map (Rule.renumber fun n => n)) = answer := by
    intro answer
    cases answer <;> simp [Except.map]
  refine ⟨.refl a, fun id => (hself _).symm, fun e _ => ?_⟩
  rw [Region.renumber_self, Pattern.renumberAll_self, hself]

/-- **Asking changes nothing about that.** -/
theorem AgreesUpTo.queried (h : AgreesUpTo f a b) (ha : a.Sound) (hb : b.Sound)
    (hqa : a.Queried a') (hqb : b.Queried b') : AgreesUpTo f a' b' where
  toRenumbered := h.toRenumbered.of_sameGrammars (hqa.agrees ha).toSameGrammars
    (hqb.agrees hb).toSameGrammars
  rules := by
    intro id
    rw [← (hqa.agrees ha).rules, ← (hqb.agrees hb).rules, h.rules]
  nested := by
    intro e he
    have hmem : e ∈ a.regions := (hqa.agrees ha).regions_eq ▸ he
    have hb' := (hqb.agrees hb).nested (e.renumber f) (h.mem_regions hmem)
    rw [← (hqa.agrees ha).nested e hmem, ← h.nested e hmem]
    exact hb'.symm

end Answers

end Library

end ScopePaint
