import Mathlib.Logic.Function.Basic
import ScopePaint.Library
import ScopePaint.Proofs.Grammar.Regions
import ScopePaint.Proofs.Tables

/-!
# Grammars under other numbers

The number of a grammar in its library is written into the places of its regions and nowhere else.
Giving all grammars other numbers (`Grammar.renumber`) changes these places only, so a grammar that
is placed under the other number is the placed grammar renumbered (`Grammar.place_renumber`), and a
walk over renumbered patterns meets the same rules, renumbered (`Pattern.walkAll_renumber`). What a
walk warns of or fails with names no place.
-/

set_option autoImplicit false

namespace ScopePaint

/-! ## Patterns and rules -/

/-- The place of a region of a grammar that has another number. -/
def RegionPlace.renumber (f : Nat → Nat) (place : RegionPlace) : RegionPlace :=
  ⟨f place.grammar, place.site⟩

/-- A region in a grammar that has another number. -/
def Region.renumber (f : Nat → Nat) (r : Region) : Region := { r with place := r.place.renumber f }

namespace Pattern

mutual

/-- A pattern in a grammar that has another number. -/
def renumber (f : Nat → Nat) : Pattern → Pattern
  | single rule => single rule
  | region r ps => region (r.renumber f) (renumberAll f ps)
  | reference target => reference target
  | group ps => group (renumberAll f ps)

/-- Patterns in a grammar that has another number. -/
def renumberAll (f : Nat → Nat) : List Pattern → List Pattern
  | [] => []
  | p :: rest => renumber f p :: renumberAll f rest

end

/-- Named patterns in a grammar that has another number. -/
def renumberNamed (f : Nat → Nat) (named : List (String × Pattern)) : List (String × Pattern) :=
  named.map fun entry => (entry.1, entry.2.renumber f)

end Pattern

/-- A rule in a grammar that has another number. -/
def Rule.renumber (f : Nat → Nat) : Rule → Rule
  | single rule => single rule
  | region r ps => region (r.renumber f) (Pattern.renumberAll f ps)

/-- What a walk over renumbered patterns meets. -/
def Finding.renumber (f : Nat → Nat) : Finding → Finding
  | rule r => rule (r.renumber f)
  | cycle warning => cycle warning
  | missing error => missing error

/-- A grammar that has another number. -/
def Grammar.renumber (f : Nat → Nat) (g : Grammar) : Grammar :=
  { g with
    patterns := Pattern.renumberAll f g.patterns
    repository := Pattern.renumberNamed f g.repository }

section Renumber

variable {f : Nat → Nat}

/-- Different places stay different if the numbers of grammars do. -/
theorem RegionPlace.renumber_injective (hf : Function.Injective f) :
    Function.Injective (RegionPlace.renumber f) := by
  rintro ⟨grammar, site⟩ ⟨grammar', site'⟩ h
  obtain ⟨hgrammar, hsite⟩ := RegionPlace.mk.inj h
  obtain rfl := hf hgrammar
  obtain rfl := hsite
  rfl

/-- The place of a region is renumbered with it. -/
@[simp] theorem Region.place_renumber (r : Region) :
    (r.renumber f).place = r.place.renumber f := rfl

/-- Renumbering keeps the regex of a rule. -/
@[simp] theorem Rule.regex_renumber (rule : Rule) : (rule.renumber f).regex = rule.regex := by
  cases rule <;> rfl

/-- It keeps the scope of a rule. -/
@[simp] theorem Rule.scope_renumber (rule : Rule) : (rule.renumber f).scope = rule.scope := by
  cases rule <;> rfl

/-- It keeps the name of a grammar. -/
@[simp] theorem Grammar.scopeName_renumber (g : Grammar) :
    (g.renumber f).scopeName = g.scopeName := rfl

/-! ## The same numbers -/

/-- A region with the same number is the same. -/
@[simp] theorem Region.renumber_self (r : Region) : (r.renumber fun n => n) = r := rfl

/-- So is a region that may be absent. -/
@[simp] theorem Region.map_renumber_self (r : Option Region) :
    (r.map (Region.renumber fun n => n)) = r := by
  cases r <;> rfl

namespace Pattern

mutual

/-- So is a pattern. -/
@[simp] theorem renumber_self (p : Pattern) : (p.renumber fun n => n) = p := by
  match p with
  | single _ => rfl
  | reference _ => rfl
  | group ps => rw [renumber, renumberAll_self ps]
  | region r ps => rw [renumber, renumberAll_self ps, Region.renumber_self]

/-- So are patterns. -/
@[simp] theorem renumberAll_self (ps : List Pattern) : renumberAll (fun n => n) ps = ps := by
  match ps with
  | [] => rfl
  | p :: rest => rw [renumberAll, renumber_self p, renumberAll_self rest]

end

end Pattern

/-- So is a rule. -/
@[simp] theorem Rule.renumber_self (rule : Rule) : (rule.renumber fun n => n) = rule := by
  cases rule with
  | single rule => rfl
  | region r ps => rw [Rule.renumber, Pattern.renumberAll_self, Region.renumber_self]

/-- So are rules. -/
@[simp] theorem Rule.map_renumber_self (rules : List Rule) :
    rules.map (Rule.renumber fun n => n) = rules :=
  List.map_id'' Rule.renumber_self rules

/-- So is a grammar. -/
@[simp] theorem Grammar.renumber_self (g : Grammar) : (g.renumber fun n => n) = g := by
  simp [Grammar.renumber, Pattern.renumberNamed]

/-! ## Placing -/

namespace Pattern

mutual

/-- The counter does not depend on the number of the grammar, and that number is all that is
different. -/
theorem place_renumber (f : Nat → Nat) (number site : Nat) (p : Pattern) :
    p.place (f number) site =
      ((p.place number site).1.renumber f, (p.place number site).2) := by
  match p with
  | single _ => rfl
  | reference _ => rfl
  | group ps => simp only [place, placeAll_renumber f number site ps, renumber]
  | region r ps =>
    simp only [place, placeAll_renumber f number (site + 1) ps, renumber]
    rfl

/-- The same for some patterns. -/
theorem placeAll_renumber (f : Nat → Nat) (number site : Nat) (ps : List Pattern) :
    placeAll (f number) site ps =
      (renumberAll f (placeAll number site ps).1, (placeAll number site ps).2) := by
  match ps with
  | [] => rfl
  | p :: rest =>
    simp only [placeAll, place_renumber f number site p,
      placeAll_renumber f number (p.place number site).2 rest, renumberAll]

end

/-- The same for named patterns. -/
theorem placeNamed_renumber (f : Nat → Nat) (number site : Nat) (named : List (String × Pattern)) :
    placeNamed (f number) site named =
      (renumberNamed f (placeNamed number site named).1, (placeNamed number site named).2) := by
  induction named generalizing site with
  | nil => rfl
  | cons entry rest ih =>
    simp only [placeNamed, place_renumber f number site entry.2, ih, renumberNamed, List.map_cons]

end Pattern

/-- **A grammar placed under another number** is the placed grammar renumbered. -/
theorem Grammar.place_renumber (f : Nat → Nat) (g : Grammar) (number : Nat) :
    g.place (f number) = (g.place number).renumber f := by
  simp only [Grammar.place, Grammar.renumber, Pattern.placeAll_renumber f number,
    Pattern.placeNamed_renumber f number]

/-! ## Regions -/

/-- A region with its patterns, in a grammar that has another number. -/
def RegionEntry.renumber (f : Nat → Nat) (e : RegionEntry) : RegionEntry :=
  (e.1.renumber f, Pattern.renumberAll f e.2)

namespace Pattern

mutual

/-- The regions of a renumbered pattern are its regions renumbered. -/
theorem regions_renumber (f : Nat → Nat) (p : Pattern) :
    (p.renumber f).regions = p.regions.map (RegionEntry.renumber f) := by
  match p with
  | single _ => rfl
  | reference _ => rfl
  | group ps => rw [renumber, regions, regions, regionsAll_renumber f ps]
  | region r ps =>
    rw [renumber, regions, regions, regionsAll_renumber f ps, List.map_cons]
    rfl

/-- So are those of renumbered patterns. -/
theorem regionsAll_renumber (f : Nat → Nat) (ps : List Pattern) :
    regionsAll (renumberAll f ps) = (regionsAll ps).map (RegionEntry.renumber f) := by
  match ps with
  | [] => rfl
  | p :: rest =>
    rw [renumberAll, regionsAll, regionsAll, regions_renumber f p, regionsAll_renumber f rest,
      List.map_append]

end

end Pattern

/-- The regions of a renumbered grammar are its regions renumbered. -/
theorem Grammar.regions_renumber (f : Nat → Nat) (g : Grammar) :
    (g.renumber f).regions = g.regions.map (RegionEntry.renumber f) := by
  have hnamed : Pattern.regionsNamed (Pattern.renumberNamed f g.repository) =
      (Pattern.regionsNamed g.repository).map (RegionEntry.renumber f) := by
    unfold Pattern.regionsNamed Pattern.renumberNamed
    rw [List.flatMap_map, List.map_flatMap]
    congr 1
    funext entry
    exact Pattern.regions_renumber f entry.2
  unfold Grammar.regions Grammar.renumber
  rw [Pattern.regionsAll_renumber, hnamed, List.map_append]

/-! ## Sizes -/

/-- Placing keeps the number of named patterns. -/
theorem Pattern.length_placeNamed (number site : Nat) (named : List (String × Pattern)) :
    (placeNamed number site named).1.length = named.length := by
  induction named generalizing site with
  | nil => rfl
  | cons entry rest ih => simp only [placeNamed, List.length_cons, ih]

/-- Neither places nor numbers change how many patterns have names. -/
theorem Grammar.length_repository_place (g : Grammar) (number : Nat) :
    (g.place number).repository.length = g.repository.length :=
  Pattern.length_placeNamed ..

/-- Renumbering keeps the number of patterns in a repository. -/
theorem Grammar.length_repository_renumber (f : Nat → Nat) (g : Grammar) :
    (g.renumber f).repository.length = g.repository.length :=
  List.length_map ..

/-- Places do not change how many regions there are. -/
theorem Grammar.regionCount_place (g : Grammar) (number : Nat) :
    (g.place number).regionCount = g.regionCount := by
  have hplaces := congrArg List.length (g.places_place number)
  rw [List.length_map, List.length_map, List.length_range] at hplaces
  rw [Grammar.regionCount_eq, Grammar.regionCount_eq, hplaces]

/-! ## Walking -/

/-- Renumbering keeps the names of patterns. -/
theorem Grammar.find?_renumber (g : Grammar) (name : String) :
    (g.renumber f).find? name = (g.find? name).map (Pattern.renumber f) :=
  lookup_map_snd (Pattern.renumber f) name g.repository

namespace Pattern

mutual

/-- **A walk over a renumbered pattern** meets what one over the pattern does, renumbered. -/
theorem walk_renumber {follow follow' : Include → List Finding}
    (h : ∀ target, follow' target = (follow target).map (Finding.renumber f)) (p : Pattern) :
    (p.renumber f).walk follow' = (p.walk follow).map (Finding.renumber f) := by
  match p with
  | single _ => rfl
  | region _ _ => rfl
  | reference target => exact h target
  | group ps => exact walkAll_renumber h ps

/-- The same for some patterns. -/
theorem walkAll_renumber {follow follow' : Include → List Finding}
    (h : ∀ target, follow' target = (follow target).map (Finding.renumber f)) (ps : List Pattern) :
    walkAll follow' (renumberAll f ps) = (walkAll follow ps).map (Finding.renumber f) := by
  match ps with
  | [] => rfl
  | p :: rest =>
    rw [renumberAll, walkAll, walkAll, List.map_append, walk_renumber h p, walkAll_renumber h rest]

end

end Pattern

namespace Finding

/-- The rule that is found is renumbered. -/
@[simp] theorem rule?_renumber (x : Finding) :
    (x.renumber f).rule? = x.rule?.map (Rule.renumber f) := by
  cases x <;> rfl

/-- What is missing stays missing. -/
@[simp] theorem missing?_renumber (x : Finding) : (x.renumber f).missing? = x.missing? := by
  cases x <;> rfl

/-- **The rules of a walk over renumbered patterns** are renumbered, or it fails as well. -/
theorem rules_renumber (policy : MissingPolicy) (xs : List Finding) :
    rules policy (xs.map (Finding.renumber f)) =
      (rules policy xs).map fun rs => rs.map (Rule.renumber f) := by
  have hrules : (xs.map (Finding.renumber f)).filterMap rule? =
      (xs.filterMap rule?).map (Rule.renumber f) := by
    rw [List.filterMap_map, List.map_filterMap]
    congr 1
    funext x
    exact rule?_renumber x
  have hmissing : (xs.map (Finding.renumber f)).findSome? missing? = xs.findSome? missing? := by
    rw [List.findSome?_map]
    congr 1
    funext x
    exact missing?_renumber x
  unfold rules
  rw [hrules, hmissing]
  cases policy with
  | warn => rfl
  | error => cases xs.findSome? missing? <;> rfl

end Finding

end Renumber

end ScopePaint
