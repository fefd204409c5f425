import ScopePaint.Grammar.Grammar

/-!
# The regions of a grammar and their places

`Pattern.regions` lists the regions of a pattern in the order in which the counter of
`Pattern.place` meets them: a region first, then those among its own patterns. So the places that a
grammar's regions are given are the numbers below `Grammar.regionCount`, each once
(`Grammar.places_place`). Placing changes nothing else of a region (`Grammar.grammars_place`).
-/

set_option autoImplicit false

namespace ScopePaint

/-- A region with the patterns inside of it. -/
abbrev RegionEntry := Region × List Pattern

namespace Pattern

mutual

/-- The regions of a pattern, also those inside of others; references are not followed. -/
def regions : Pattern → List RegionEntry
  | single _ => []
  | region r ps => (r, ps) :: regionsAll ps
  | reference _ => []
  | group ps => regionsAll ps

/-- The regions of some patterns. -/
def regionsAll : List Pattern → List RegionEntry
  | [] => []
  | p :: rest => regions p ++ regionsAll rest

end

/-- The regions of named patterns. -/
def regionsNamed (named : List (String × Pattern)) : List RegionEntry :=
  named.flatMap fun entry => entry.2.regions

/-- Without patterns there are no regions. -/
@[simp] theorem regionsNamed_nil : regionsNamed [] = [] := rfl

/-- The regions of some patterns are those of each of them. -/
@[simp] theorem regionsNamed_cons (entry : String × Pattern) (rest : List (String × Pattern)) :
    regionsNamed (entry :: rest) = entry.2.regions ++ regionsNamed rest := rfl

mutual

/-- **A region lists what is inside of it**: the regions among the patterns of a region are listed
where the region is. -/
theorem regionsAll_subset_of_mem (p : Pattern) {e : RegionEntry} (he : e ∈ p.regions) :
    regionsAll e.2 ⊆ p.regions := by
  match p with
  | single _ => simp [regions] at he
  | reference _ => simp [regions] at he
  | group ps =>
    rw [regions] at he ⊢
    exact regionsAll_subset_of_mem_all ps he
  | region r ps =>
    rw [regions, List.mem_cons] at he
    rw [regions]
    rcases he with rfl | he
    · exact List.subset_cons_of_subset _ (List.Subset.refl _)
    · exact List.subset_cons_of_subset _ (regionsAll_subset_of_mem_all ps he)

/-- The same for the regions of some patterns. -/
theorem regionsAll_subset_of_mem_all (ps : List Pattern) {e : RegionEntry}
    (he : e ∈ regionsAll ps) : regionsAll e.2 ⊆ regionsAll ps := by
  match ps with
  | [] => simp [regionsAll] at he
  | p :: rest =>
    rw [regionsAll, List.mem_append] at he
    rw [regionsAll]
    rcases he with he | he
    · exact List.subset_append_of_subset_left _ (regionsAll_subset_of_mem p he)
    · exact List.subset_append_of_subset_right _ (regionsAll_subset_of_mem_all rest he)

end

/-- What the counter does to some entries: the places that are given follow each other from `site`
on, as many as there are regions, and the scopes of the grammars stay as they were. -/
structure Numbered (grammar site : Nat) (before after : List RegionEntry) (next : Nat) : Prop where
  next_eq : next = site + before.length
  places : after.map (fun e => e.1.place) =
    (List.range' site before.length).map (RegionPlace.mk grammar)
  grammars : after.map (fun e => e.1.grammar) = before.map (fun e => e.1.grammar)

namespace Numbered

variable {grammar site mid next : Nat} {xs xs' ys ys' : List RegionEntry}

/-- Where there are no regions, none has to be numbered. -/
theorem nil : Numbered grammar site [] [] site := ⟨by simp, by simp, by simp⟩

/-- Numbering goes on where it stopped. -/
theorem append (hx : Numbered grammar site xs xs' mid) (hy : Numbered grammar mid ys ys' next) :
    Numbered grammar site (xs ++ ys) (xs' ++ ys') next := by
  have hmid := hx.next_eq
  subst hmid
  refine ⟨?_, ?_, ?_⟩
  · rw [hy.next_eq, List.length_append]; omega
  · rw [List.map_append, hx.places, hy.places, List.length_append, ← List.range'_append_1,
      List.map_append]
  · rw [List.map_append, hx.grammars, hy.grammars, List.map_append]

/-- A region takes the first number, and its patterns those behind it. -/
theorem cons {r : Region} {ps ps' : List Pattern}
    (h : Numbered grammar (site + 1) xs xs' next) :
    Numbered grammar site ((r, ps) :: xs) (({ r with place := ⟨grammar, site⟩ }, ps') :: xs')
      next := by
  refine ⟨?_, ?_, ?_⟩
  · rw [h.next_eq, List.length_cons]; omega
  · rw [List.map_cons, h.places, List.length_cons, List.range'_succ, List.map_cons]
  · rw [List.map_cons, h.grammars, List.map_cons]

end Numbered

mutual

/-- The counter gives the regions of a pattern their numbers in the order in which they are
listed. -/
theorem place_numbered (grammar site : Nat) (p : Pattern) :
    Numbered grammar site p.regions (p.place grammar site).1.regions (p.place grammar site).2 := by
  match p with
  | single _ => exact .nil
  | reference _ => exact .nil
  | group ps =>
    have h := placeAll_numbered grammar site ps
    simpa only [place, regions] using h
  | region r ps =>
    have h := placeAll_numbered grammar (site + 1) ps
    simpa only [place, regions] using h.cons

/-- The same for the regions of some patterns. -/
theorem placeAll_numbered (grammar site : Nat) (ps : List Pattern) :
    Numbered grammar site (regionsAll ps) (regionsAll (placeAll grammar site ps).1)
      (placeAll grammar site ps).2 := by
  match ps with
  | [] => exact .nil
  | p :: rest =>
    have hp := place_numbered grammar site p
    have hrest := placeAll_numbered grammar (p.place grammar site).2 rest
    simpa only [placeAll, regionsAll] using hp.append hrest

end

/-- The same for the regions of named patterns. -/
theorem placeNamed_numbered (grammar site : Nat) (named : List (String × Pattern)) :
    Numbered grammar site (regionsNamed named) (regionsNamed (placeNamed grammar site named).1)
      (placeNamed grammar site named).2 := by
  induction named generalizing site with
  | nil => exact .nil
  | cons entry rest ih =>
    have hp := place_numbered grammar site entry.2
    simpa only [placeNamed, regionsNamed_cons] using
      hp.append (ih (entry.2.place grammar site).2)

end Pattern

namespace Grammar

/-- The regions of a grammar: those of its patterns, then those of its named patterns. -/
def regions (g : Grammar) : List RegionEntry :=
  Pattern.regionsAll g.patterns ++ Pattern.regionsNamed g.repository

/-- A region of a grammar lists what is inside of it. -/
theorem regionsAll_subset_of_mem (g : Grammar) {e : RegionEntry} (he : e ∈ g.regions) :
    Pattern.regionsAll e.2 ⊆ g.regions := by
  intro x hx
  rw [regions, List.mem_append] at he ⊢
  rcases he with he | he
  · exact Or.inl (Pattern.regionsAll_subset_of_mem_all g.patterns he hx)
  · obtain ⟨entry, hentry, he⟩ := List.mem_flatMap.1 he
    exact Or.inr (List.mem_flatMap.2
      ⟨entry, hentry, Pattern.regionsAll_subset_of_mem entry.2 he hx⟩)

/-- The regions of a named pattern are regions of its grammar. -/
theorem regions_subset_of_find? (g : Grammar) {name : String} {p : Pattern}
    (h : g.find? name = some p) : p.regions ⊆ g.regions := by
  intro e he
  have hmem : (name, p) ∈ g.repository := by
    unfold find? at h
    obtain ⟨key, hkey⟩ := List.lookup_eq_some_iff.1 h
    obtain ⟨rest, hlist, -⟩ := hkey
    rw [hlist]
    simp
  exact List.mem_append_right _ (List.mem_flatMap.2 ⟨(name, p), hmem, he⟩)

/-- The regions of a grammar are numbered in the order in which they are listed. -/
theorem place_numbered (g : Grammar) (number : Nat) :
    ∃ next, Pattern.Numbered number 0 g.regions (g.place number).regions next := by
  have hpatterns := Pattern.placeAll_numbered number 0 g.patterns
  have hnamed :=
    Pattern.placeNamed_numbered number (Pattern.placeAll number 0 g.patterns).2 g.repository
  exact ⟨_, hpatterns.append hnamed⟩

/-- The count of a grammar's regions is the length of their list. -/
theorem regionCount_eq (g : Grammar) : g.regionCount = g.regions.length := by
  have hpatterns := Pattern.placeAll_numbered 0 0 g.patterns
  have hnamed := Pattern.placeNamed_numbered 0 (Pattern.placeAll 0 0 g.patterns).2 g.repository
  have h := (hpatterns.append hnamed).next_eq
  rw [regionCount, regions]
  simpa only [Nat.zero_add] using h

/-- **The places of a placed grammar**: the numbers from zero on, each once. -/
theorem places_place (g : Grammar) (number : Nat) :
    (g.place number).regions.map (fun e => e.1.place) =
      (List.range g.regions.length).map (RegionPlace.mk number) := by
  obtain ⟨next, h⟩ := g.place_numbered number
  rw [h.places, List.range_eq_range']

/-- Placing keeps the scopes of the grammars that regions stand in. -/
theorem grammars_place (g : Grammar) (number : Nat) :
    (g.place number).regions.map (fun e => e.1.grammar) = g.regions.map (fun e => e.1.grammar) := by
  obtain ⟨next, h⟩ := g.place_numbered number
  exact h.grammars

/-- Numbering keeps the name of a grammar. -/
@[simp] theorem scopeName_place (g : Grammar) (number : Nat) :
    (g.place number).scopeName = g.scopeName := rfl

/-- No two regions of a placed grammar have the same place. -/
theorem nodup_places_place (g : Grammar) (number : Nat) :
    ((g.place number).regions.map (fun e => e.1.place)).Nodup := by
  rw [places_place]
  exact List.Pairwise.map (RegionPlace.mk number)
    (fun i j hij h => hij (RegionPlace.mk.inj h).2) List.nodup_range

/-- The places of a placed grammar name the number it was given. -/
theorem place_grammar_of_mem {g : Grammar} {number : Nat} {e : RegionEntry}
    (he : e ∈ (g.place number).regions) : e.1.place.grammar = number := by
  have hmem := List.mem_map_of_mem (f := fun e => e.1.place) he
  rw [places_place, List.mem_map] at hmem
  obtain ⟨i, -, hi⟩ := hmem
  exact (congrArg RegionPlace.grammar hi).symm

end Grammar

end ScopePaint
