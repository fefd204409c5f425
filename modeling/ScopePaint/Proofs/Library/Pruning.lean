import ScopePaint.Proofs.Library.DanglingIncludes
import ScopePaint.Proofs.Library.Registering

/-!
# Grammars without includes of nothing

Where an include of nothing is no error, it is as if it did not stand there. `Grammar.prune` deletes
the includes of a grammar that dangle, wherever they stand. Those in a region are looked at in the
grammar that the region names, as they are when they are followed. A named pattern that was nothing
but such an include keeps its name, so that no other include comes to dangle.

A library of the pruned grammars (`Library.Pruned`) walks over pruned patterns as the other library
walks over the patterns themselves, and does not meet what was deleted (`Pruned.findings`). So no
rules are missing in it under either policy, and they are the rules of the other library, pruned
(`Pruned.resolve`).
-/

set_option autoImplicit false

namespace ScopePaint

/-! ## Deleting includes -/

namespace Pattern

mutual

/-- A pattern of the grammar `g` without the includes of nothing in it; such an include itself leaves
nothing. -/
def prune (lib : Library) (g : Grammar) : Pattern → Option Pattern
  | single rule => some (single rule)
  | region r ps =>
    some (region r (match lib.find? r.grammar.text with
      | some home => pruneAll lib home ps
      | none => ps))
  | reference target =>
    match lib.dangling? g target with
    | some _ => none
    | none => some (reference target)
  | group ps => some (group (pruneAll lib g ps))

/-- Patterns of the grammar `g` without the includes of nothing among and in them. -/
def pruneAll (lib : Library) (g : Grammar) : List Pattern → List Pattern
  | [] => []
  | p :: rest => (prune lib g p).toList ++ pruneAll lib g rest

end

/-- What a named pattern of the grammar `g` is without the includes of nothing in it. -/
def pruneEntry (lib : Library) (g : Grammar) (p : Pattern) : Pattern :=
  (prune lib g p).getD (group [])

end Pattern

/-- A grammar without its includes of nothing. -/
def Grammar.prune (lib : Library) (g : Grammar) : Grammar :=
  { g with
    patterns := Pattern.pruneAll lib g g.patterns
    repository := g.repository.map fun named => (named.1, named.2.pruneEntry lib g) }

/-- A rule without the includes of nothing among its patterns. -/
def Rule.prune (lib : Library) : Rule → Rule
  | single rule => single rule
  | region r ps =>
    region r (match lib.find? r.grammar.text with
      | some home => Pattern.pruneAll lib home ps
      | none => ps)

/-- What a walk over pruned patterns meets of what a walk over the patterns does. -/
def Finding.prune (lib : Library) : Finding → Option Finding
  | rule r => some (rule (r.prune lib))
  | cycle warning => some (cycle warning)
  | missing _ => none

section Prune

variable {lib : Library} {g : Grammar}

/-- Pruning keeps the name of a grammar. -/
@[simp] theorem Grammar.scopeName_prune : (g.prune lib).scopeName = g.scopeName := rfl

/-- It keeps the number of its named patterns. -/
@[simp] theorem Grammar.length_repository_prune :
    (g.prune lib).repository.length = g.repository.length :=
  List.length_map ..

/-- Pruning keeps the names of patterns. -/
theorem Grammar.find?_prune (name : String) :
    (g.prune lib).find? name = (g.find? name).map (Pattern.pruneEntry lib g) :=
  lookup_map_snd (Pattern.pruneEntry lib g) name g.repository

/-! ## Walking -/

namespace Pattern

/-- Patterns are walked one after the other. -/
theorem walkAll_append (follow : Include → List Finding) (ps qs : List Pattern) :
    walkAll follow (ps ++ qs) = walkAll follow ps ++ walkAll follow qs := by
  induction ps with
  | nil => rfl
  | cons p rest ih => rw [List.cons_append, walkAll, walkAll, ih, List.append_assoc]

/-- A walk over a pruned named pattern meets nothing where nothing is left of it. -/
theorem walkAll_pruneEntry (follow : Include → List Finding) (p : Pattern) :
    walkAll follow [p.pruneEntry lib g] = walkAll follow (pruneAll lib g [p]) := by
  rw [pruneAll, pruneAll, List.append_nil, pruneEntry]
  cases prune lib g p <;> rfl

mutual

/-- **A walk over a pruned pattern** meets what one over the pattern does, but for includes of
nothing. -/
theorem walk_prune {follow follow' : Include → List Finding}
    (hdangling : ∀ target e, lib.dangling? g target = some e → follow target = [.missing e])
    (hleads : ∀ target, lib.dangling? g target = none →
      follow' target = (follow target).filterMap (Finding.prune lib)) (p : Pattern) :
    walkAll follow' (prune lib g p).toList =
      (walk follow p).filterMap (Finding.prune lib) := by
  match p with
  | single _ => rfl
  | region _ _ => rfl
  | group ps =>
    rw [prune, Option.toList_some, walkAll, walkAll, List.append_nil, walk, walk,
      walkAll_prune hdangling hleads ps]
  | reference target =>
    rw [prune, walk]
    cases h : lib.dangling? g target with
    | some e =>
      rw [hdangling target e h]
      rfl
    | none => rw [Option.toList_some, walkAll, walkAll, List.append_nil, walk, hleads target h]

/-- The same for some patterns. -/
theorem walkAll_prune {follow follow' : Include → List Finding}
    (hdangling : ∀ target e, lib.dangling? g target = some e → follow target = [.missing e])
    (hleads : ∀ target, lib.dangling? g target = none →
      follow' target = (follow target).filterMap (Finding.prune lib)) (ps : List Pattern) :
    walkAll follow' (pruneAll lib g ps) = (walkAll follow ps).filterMap (Finding.prune lib) := by
  match ps with
  | [] => rfl
  | p :: rest =>
    rw [pruneAll, walkAll, walkAll_append, List.filterMap_append,
      walk_prune hdangling hleads p, walkAll_prune hdangling hleads rest]

end

end Pattern

/-- **Nothing is missing in what is left**, so its rules are those that were found, pruned. -/
theorem Finding.rules_prune (policy : MissingPolicy) (findings : List Finding) :
    Finding.rules policy (findings.filterMap (Finding.prune lib)) =
      .ok ((findings.filterMap Finding.rule?).map (Rule.prune lib)) := by
  have hmissing : (findings.filterMap (Finding.prune lib)).findSome? Finding.missing? = none := by
    rw [List.findSome?_eq_none_iff]
    intro left hleft
    obtain ⟨finding, -, hprune⟩ := List.mem_filterMap.1 hleft
    cases finding with
    | rule r => obtain rfl := Option.some.inj hprune; rfl
    | cycle warning => obtain rfl := Option.some.inj hprune; rfl
    | missing e => exact absurd hprune (by simp [Finding.prune])
  have hrules : (findings.filterMap (Finding.prune lib)).filterMap Finding.rule? =
      (findings.filterMap Finding.rule?).map (Rule.prune lib) := by
    rw [List.filterMap_filterMap, List.map_filterMap]
    congr 1
    funext finding
    cases finding <;> rfl
  unfold Finding.rules
  rw [hmissing, hrules]
  cases policy <;> rfl

/-! ## Placing -/

namespace Pattern

mutual

/-- What is deleted depends only on which includes dangle. -/
theorem prune_congr {g' : Grammar} (h : ∀ target, lib.dangling? g target = lib.dangling? g' target)
    (p : Pattern) : prune lib g p = prune lib g' p := by
  match p with
  | single _ => rfl
  | region _ _ => rfl
  | group ps => rw [prune, prune, pruneAll_congr h ps]
  | reference target => rw [prune, prune, h]

/-- The same for some patterns. -/
theorem pruneAll_congr {g' : Grammar}
    (h : ∀ target, lib.dangling? g target = lib.dangling? g' target) (ps : List Pattern) :
    pruneAll lib g ps = pruneAll lib g' ps := by
  match ps with
  | [] => rfl
  | p :: rest => rw [pruneAll, pruneAll, prune_congr h p, pruneAll_congr h rest]

end

/-- Patterns are placed one after the other. -/
theorem placeAll_append (number site : Nat) (ps qs : List Pattern) :
    placeAll number site (ps ++ qs) =
      ((placeAll number site ps).1 ++ (placeAll number (placeAll number site ps).2 qs).1,
        (placeAll number (placeAll number site ps).2 qs).2) := by
  induction ps generalizing site with
  | nil => rfl
  | cons p rest ih => simp only [List.cons_append, placeAll, ih]

/-- A single pattern is placed alone. -/
theorem placeAll_singleton (number site : Nat) (p : Pattern) :
    placeAll number site [p] = ([(place number site p).1], (place number site p).2) := rfl

mutual

/-- What is deleted holds no regions, so those that are left are counted as before. -/
theorem place_prune (number site : Nat) (g : Grammar) (p : Pattern) :
    placeAll number site (prune lib g p).toList =
      ((prune lib g (place number site p).1).toList, (place number site p).2) := by
  match p with
  | single _ => rfl
  | group ps =>
    simp only [prune, place, Option.toList_some, placeAll_singleton, placeAll_prune number site g ps]
  | reference target =>
    have hplace : (reference target).place number site = (reference target, site) := rfl
    rw [hplace, prune]
    cases lib.dangling? g target <;> rfl
  | region r ps =>
    simp only [prune, place, Option.toList_some, placeAll_singleton]
    cases lib.find? r.grammar.text with
    | none => rfl
    | some home => simp only [placeAll_prune number (site + 1) home ps]

/-- The same for some patterns. -/
theorem placeAll_prune (number site : Nat) (g : Grammar) (ps : List Pattern) :
    placeAll number site (pruneAll lib g ps) =
      (pruneAll lib g (placeAll number site ps).1, (placeAll number site ps).2) := by
  match ps with
  | [] => rfl
  | p :: rest =>
    simp only [pruneAll, placeAll, placeAll_append, place_prune number site g p,
      placeAll_prune number _ g rest]

end

/-- Pruning a named pattern and placing it can be done in any order. -/
theorem place_pruneEntry (number site : Nat) (g : Grammar) (p : Pattern) :
    place number site (p.pruneEntry lib g) =
      ((place number site p).1.pruneEntry lib g, (place number site p).2) := by
  have hplace : placeAll number site (prune lib g p).toList =
      ((prune lib g (place number site p).1).toList, (place number site p).2) :=
    place_prune number site g p
  unfold pruneEntry
  cases hp : prune lib g p with
  | none =>
    rw [hp, Option.toList_none, placeAll] at hplace
    obtain ⟨hnone, hsite⟩ := Prod.mk.inj hplace
    rw [Option.toList_eq_nil_iff.1 hnone.symm, ← hsite]
    rfl
  | some q =>
    rw [hp, Option.toList_some, placeAll_singleton] at hplace
    obtain ⟨hsome, hsite⟩ := Prod.mk.inj hplace
    rw [Option.toList_eq_singleton_iff.1 hsome.symm, ← hsite]
    rfl

/-- The same for named patterns. -/
theorem placeNamed_prune (number site : Nat) (g : Grammar) (named : List (String × Pattern)) :
    placeNamed number site (named.map fun entry => (entry.1, entry.2.pruneEntry lib g)) =
      ((placeNamed number site named).1.map fun entry => (entry.1, entry.2.pruneEntry lib g),
        (placeNamed number site named).2) := by
  induction named generalizing site with
  | nil => rfl
  | cons entry rest ih => simp only [List.map_cons, placeNamed, place_pruneEntry, ih]

/-- Placing keeps the names of patterns. -/
theorem isSome_lookup_placeNamed (number site : Nat) (named : List (String × Pattern))
    (name : String) :
    ((placeNamed number site named).1.lookup name).isSome = (named.lookup name).isSome := by
  induction named generalizing site with
  | nil => rfl
  | cons entry rest ih =>
    rw [placeNamed]
    dsimp only
    rw [List.lookup_cons, List.lookup_cons]
    cases name == entry.1 with
    | true => rfl
    | false => exact ih _

end Pattern

/-- Whether an include dangles does not depend on the places of regions. -/
theorem Library.dangling?_place (number : Nat) (target : Include) :
    lib.dangling? (g.place number) target = lib.dangling? g target := by
  cases target with
  | self => rfl
  | grammar scope name => rfl
  | repository name =>
    have hsome : ((g.place number).find? name).isSome = (g.find? name).isSome :=
      Pattern.isSome_lookup_placeNamed ..
    rw [dangling?, dangling?, missingEntry?, missingEntry?, Grammar.scopeName_place]
    revert hsome
    cases (g.place number).find? name <;> cases g.find? name <;> simp

/-- **Grammars are pruned before they are placed or after.** -/
theorem Grammar.place_prune (number : Nat) (g : Grammar) :
    (g.prune lib).place number = (g.place number).prune lib := by
  have hcongr : ∀ target, lib.dangling? (g.place number) target = lib.dangling? g target :=
    fun target => Library.dangling?_place number target
  have hnamed : (fun entry : String × Pattern =>
      (entry.1, entry.2.pruneEntry lib (g.place number))) =
      fun entry => (entry.1, entry.2.pruneEntry lib g) := by
    funext entry
    rw [Pattern.pruneEntry, Pattern.pruneEntry, Pattern.prune_congr hcongr]
  rw [Grammar.prune, Grammar.prune, Pattern.pruneAll_congr hcongr, hnamed]
  simp only [Grammar.place, Pattern.placeAll_prune, Pattern.placeNamed_prune]

end Prune

namespace Library

/-! ## Libraries of pruned grammars -/

/-- A library in which the same scope names stand for the pruned grammars of another one. -/
structure Pruned (a b : Library) : Prop where
  ids : b.id? = a.id?
  grammars : ∀ id, b.grammar? id = (a.grammar? id).map (Grammar.prune a)
  keyCount : ∀ g, b.keyCount (g.prune a) = a.keyCount g

namespace Pruned

variable {a b : Library}

/-- A scope name stands for the pruned grammar. -/
theorem find? (h : Pruned a b) (scope : String) :
    b.find? scope = (a.find? scope).map (Grammar.prune a) := by
  unfold Library.find?
  rw [h.ids]
  cases a.id? scope with
  | none => rfl
  | some id => exact h.grammars id

/-- The same grammars count. -/
theorem isRegistered (h : Pruned a b) (id : Nat) : b.isRegistered id = a.isRegistered id := by
  unfold Library.isRegistered
  rw [h.grammars]
  cases a.grammar? id with
  | none => rfl
  | some g =>
    dsimp only [Option.map_some]
    rw [Grammar.scopeName_prune, h.ids]

/-- Pruning grammars takes includes of nothing out of what walks meet. -/
theorem change (lib : Library) :
    Change (Grammar.prune lib) (Pattern.pruneEntry lib)
      (List.filterMap (Finding.prune lib)) where
  scopeName := fun _ => rfl
  find? := fun _ => Grammar.find?_prune
  cycle := fun _ => rfl

/-- **The walks over pruned patterns** meet what the walks over the patterns do, but for includes of
nothing. -/
theorem expand (h : Pruned a b) (fuel : Nat) (visiting : List String) (g : Grammar)
    (ps : List Pattern) :
    b.expand fuel visiting (g.prune a) (Pattern.pruneAll a g ps) =
      (a.expand fuel visiting g ps).filterMap (Finding.prune a) := by
  induction fuel generalizing visiting g ps with
  | zero => rfl
  | succ fuel ih =>
    rw [Library.expand, Library.expand]
    refine Pattern.walkAll_prune (fun target e => follow_of_dangling? _ visiting)
      (fun target hleads => ?_) ps
    have hentry : ∀ visiting g p, b.expand fuel visiting (g.prune a) [p.pruneEntry a g] =
        (a.expand fuel visiting g [p]).filterMap (Finding.prune a) := by
      intro visiting g p
      rw [← ih visiting g [p]]
      cases fuel with
      | zero => rfl
      | succ fuel => exact Pattern.walkAll_pruneEntry _ p
    obtain ⟨d, hd⟩ := dangling?_eq_none_iff.1 hleads
    exact (change a).follow h.find? (fun visiting g => ih visiting g g.patterns) hentry visiting g
      target fun hnone => absurd (hd.symm.trans hnone) (by simp)

/-- What is met in a pruned library are the pruned findings. -/
theorem findings (h : Pruned a b) (g : Grammar) (ps : List Pattern) :
    b.findings (g.prune a) (Pattern.pruneAll a g ps) =
      (a.findings g ps).filterMap (Finding.prune a) := by
  unfold Library.findings
  rw [h.keyCount]
  exact h.expand _ [] g ps

/-- **No rules are missing**, and those of pruned patterns are those of the patterns, pruned. -/
theorem resolve (h : Pruned a b) (g : Grammar) (ps : List Pattern) :
    (b.resolve (g.prune a) (Pattern.pruneAll a g ps)).1 =
      .ok (((a.findings g ps).filterMap Finding.rule?).map (Rule.prune a)) := by
  simp only [Library.resolve]
  rw [h.findings, Finding.rules_prune]
  rfl

end Pruned

/-- Scope names stand for grammars with the same numbers, whatever else the grammars are. -/
theorem names_ofGrammars_map (options options' : LibraryOptions) (gs : List Grammar)
    {f : Grammar → Grammar} (hf : ∀ g, (f g).scopeName = g.scopeName) :
    (ofGrammars options' (gs.map f)).names = (ofGrammars options gs).names := by
  induction gs using List.reverseRecOn with
  | nil => rfl
  | append_singleton gs g ih =>
    rw [List.map_append, List.map_singleton, ofGrammars_concat, ofGrammars_concat, names_register,
      names_register, ih, hf, members_ofGrammars, members_ofGrammars]
    simp

/-- **Registering the pruned grammars** gives a library of pruned grammars. -/
theorem pruned_ofGrammars (options options' : LibraryOptions) (gs : List Grammar) :
    Pruned (ofGrammars options gs)
      (ofGrammars options' (gs.map (Grammar.prune (ofGrammars options gs)))) where
  ids := by
    funext scope
    unfold id?
    rw [names_ofGrammars_map options options' gs fun g => Grammar.scopeName_prune]
  grammars := by
    intro id
    rw [grammar?_ofGrammars, grammar?_ofGrammars, List.getElem?_map, Option.map_map, Option.map_map]
    congr 1
    funext g
    exact Grammar.place_prune id g
  keyCount := by
    intro g
    unfold keyCount
    rw [Grammar.length_repository_prune, members_ofGrammars, members_ofGrammars, List.zipIdx_map,
      List.map_map, List.map_map, List.map_map]
    simp [Function.comp_def, Grammar.length_repository_place]

end Library

end ScopePaint
