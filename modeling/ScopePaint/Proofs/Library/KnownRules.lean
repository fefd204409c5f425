import Mathlib.Data.List.Nodup
import Mathlib.Data.List.Perm.Subperm
import ScopePaint.Library
import ScopePaint.Proofs.Grammar.Regions

/-!
# The rules that a library can find

The regions of a library are those of its grammars. In a library whose grammars have the places of
their numbers, the place of a region tells which region it is (`Library.Placed.unique`), and there
are as many places as `Library.regionCount` says. Following includes stays inside the library: a
walk over patterns that the library knows finds only rules that the library knows
(`Library.knows_of_mem_findings`).
-/

set_option autoImplicit false

namespace ScopePaint

namespace Library

/-- The regions of all grammars of a library. -/
def regions (lib : Library) : List RegionEntry := lib.members.flatMap fun m => m.grammar.regions

/-- A rule that stands in the library: if it begins a region, that is one of the library's. -/
def Knows (lib : Library) : Rule → Prop
  | .single _ => True
  | .region r ps => (r, ps) ∈ lib.regions

/-- Each grammar has the places of its number. -/
def Placed (lib : Library) : Prop :=
  ∀ (i : Nat) (m : Member), lib.members[i]? = some m → ∃ g : Grammar, m.grammar = g.place i

/-- More regions make more rules known. -/
theorem Knows.mono {a b : Library} (h : a.regions ⊆ b.regions) {rule : Rule} (hk : a.Knows rule) :
    b.Knows rule := by
  cases rule with
  | single r => trivial
  | region r ps => exact h hk

/-- The count of a library's regions is the length of their list. -/
theorem regionCount_eq (lib : Library) : lib.regionCount = lib.regions.length := by
  unfold regionCount regions
  induction lib.members with
  | nil => rfl
  | cons m members ih =>
    rw [List.map_cons, List.foldr_cons, ih, List.flatMap_cons, List.length_append,
      Grammar.regionCount_eq]

/-- The regions of a member are regions of the library. -/
theorem regions_subset_of_mem {lib : Library} {m : Member} (hm : m ∈ lib.members) :
    m.grammar.regions ⊆ lib.regions := fun _ he => List.mem_flatMap.2 ⟨m, hm, he⟩

/-- What is inside of a region of the library consists of regions of the library. -/
theorem regionsAll_subset_of_mem {lib : Library} {e : RegionEntry} (he : e ∈ lib.regions) :
    Pattern.regionsAll e.2 ⊆ lib.regions := by
  obtain ⟨m, hm, he⟩ := List.mem_flatMap.1 he
  exact List.Subset.trans (m.grammar.regionsAll_subset_of_mem he) (regions_subset_of_mem hm)

/-- The place of a region holds the number of its grammar. -/
theorem Placed.grammar_of_mem {lib : Library} (h : lib.Placed) {i : Nat} {m : Member}
    (hm : lib.members[i]? = some m) {e : RegionEntry} (he : e ∈ m.grammar.regions) :
    e.1.place.grammar = i := by
  obtain ⟨g, hg⟩ := h i m hm
  rw [hg] at he
  exact Grammar.place_grammar_of_mem he

/-- **A place tells the region**: no two regions of a library have the same place. -/
theorem Placed.unique {lib : Library} (h : lib.Placed) {e e' : RegionEntry} (he : e ∈ lib.regions)
    (he' : e' ∈ lib.regions) (hplace : e.1.place = e'.1.place) : e = e' := by
  obtain ⟨m, hm, hem⟩ := List.mem_flatMap.1 he
  obtain ⟨m', hm', hem'⟩ := List.mem_flatMap.1 he'
  obtain ⟨i, hi⟩ := List.mem_iff_getElem?.1 hm
  obtain ⟨j, hj⟩ := List.mem_iff_getElem?.1 hm'
  -- A place names the number of its grammar, so both regions stand in the same one.
  have hij : i = j := by
    rw [← h.grammar_of_mem hi hem, hplace, h.grammar_of_mem hj hem']
  subst hij
  obtain rfl : m = m' := Option.some.inj (hi.symm.trans hj)
  obtain ⟨g, hg⟩ := h i m hi
  rw [hg] at hem hem'
  exact List.inj_on_of_nodup_map (g.nodup_places_place i) hem hem' hplace

/-- Different places of regions of a library are no more than the library has regions. -/
theorem length_le_regionCount {lib : Library} {places : List RegionPlace} (hnodup : places.Nodup)
    (hplaces : ∀ place ∈ places, ∃ e ∈ lib.regions, e.1.place = place) :
    places.length ≤ lib.regionCount := by
  have hsubset : places ⊆ lib.regions.map fun e => e.1.place := by
    intro place hplace
    obtain ⟨e, he, rfl⟩ := hplaces place hplace
    exact List.mem_map_of_mem he
  have hlength := (List.subperm_of_subset hnodup hsubset).length_le
  rwa [List.length_map, ← regionCount_eq] at hlength

/-- A grammar that a scope name stands for is one of the library's. -/
theorem mem_of_find? {lib : Library} {scope : String} {g : Grammar}
    (h : lib.find? scope = some g) : ∃ m ∈ lib.members, m.grammar = g := by
  obtain ⟨id, -, hid⟩ := Option.bind_eq_some_iff.1 h
  obtain ⟨m, hm, hg⟩ := Option.map_eq_some_iff.1 hid
  exact ⟨m, List.mem_of_getElem? hm, hg⟩

end Library

/-! ## What a walk finds -/

namespace Pattern

section Walk

variable {follow : Include → List Finding} {P : Rule → Prop}

mutual

/-- What holds of the regions of a pattern and of all that includes lead to holds of each rule that
a walk finds. -/
theorem rule_of_mem_walk (hsingle : ∀ r : MatchRule, P (.single r))
    (hfollow : ∀ target rule, Finding.rule rule ∈ follow target → P rule) (p : Pattern)
    (hp : ∀ e ∈ p.regions, P (.region e.1 e.2)) :
    ∀ rule, Finding.rule rule ∈ p.walk follow → P rule := by
  intro rule hrule
  match p with
  | single r =>
    rw [walk, List.mem_singleton] at hrule
    obtain rfl := Finding.rule.inj hrule
    exact hsingle r
  | region r ps =>
    rw [walk, List.mem_singleton] at hrule
    obtain rfl := Finding.rule.inj hrule
    exact hp (r, ps) (by rw [regions]; exact List.mem_cons_self)
  | reference target => exact hfollow target rule hrule
  | group ps =>
    rw [walk] at hrule
    rw [regions] at hp
    exact rule_of_mem_walkAll hsingle hfollow ps hp rule hrule

/-- The same for a walk over some patterns. -/
theorem rule_of_mem_walkAll (hsingle : ∀ r : MatchRule, P (.single r))
    (hfollow : ∀ target rule, Finding.rule rule ∈ follow target → P rule) (ps : List Pattern)
    (hps : ∀ e ∈ regionsAll ps, P (.region e.1 e.2)) :
    ∀ rule, Finding.rule rule ∈ walkAll follow ps → P rule := by
  intro rule hrule
  match ps with
  | [] => rw [walkAll] at hrule; exact absurd hrule (by simp)
  | p :: rest =>
    rw [walkAll, List.mem_append] at hrule
    rw [regionsAll] at hps
    rcases hrule with hrule | hrule
    · exact rule_of_mem_walk hsingle hfollow p
        (fun e he => hps e (List.mem_append_left _ he)) rule hrule
    · exact rule_of_mem_walkAll hsingle hfollow rest
        (fun e he => hps e (List.mem_append_right _ he)) rule hrule

end

end Walk

end Pattern

namespace Library

/-- Patterns all of whose regions the library knows. -/
def KnowsPatterns (lib : Library) (patterns : List Pattern) : Prop :=
  Pattern.regionsAll patterns ⊆ lib.regions

/-- The patterns of a member are known. -/
theorem knowsPatterns_of_mem {lib : Library} {m : Member} (hm : m ∈ lib.members) :
    lib.KnowsPatterns m.grammar.patterns := fun _ he =>
  regions_subset_of_mem hm (List.mem_append_left _ he)

section Follow

variable {lib : Library} {expand : List String → Grammar → List Pattern → List Finding}

/-- Following the name of a pattern of a grammar in the library finds rules of the library, if
walking over patterns does. -/
theorem knows_of_mem_followEntry
    (hexpand : ∀ visiting, ∀ m ∈ lib.members, ∀ patterns, lib.KnowsPatterns patterns →
      ∀ rule, Finding.rule rule ∈ expand visiting m.grammar patterns → lib.Knows rule)
    {visiting : List String} {m : Member} (hm : m ∈ lib.members) {name : String} {rule : Rule}
    (h : Finding.rule rule ∈ followEntry expand visiting m.grammar name) : lib.Knows rule := by
  unfold followEntry at h
  split at h
  · exact absurd h (by simp)
  · rename_i p hp
    dsimp only at h
    split at h
    · exact absurd h (by simp)
    · refine hexpand _ m hm [p] ?_ rule h
      intro e he
      simp only [Pattern.regionsAll, List.append_nil] at he
      exact regions_subset_of_mem hm (m.grammar.regions_subset_of_find? hp he)

/-- The same for following the name of a grammar. -/
theorem knows_of_mem_followGrammar
    (hexpand : ∀ visiting, ∀ m ∈ lib.members, ∀ patterns, lib.KnowsPatterns patterns →
      ∀ rule, Finding.rule rule ∈ expand visiting m.grammar patterns → lib.Knows rule)
    {visiting : List String} {g : Grammar} {m : Member} (hm : m ∈ lib.members) {key : String}
    {rule : Rule} (h : Finding.rule rule ∈ followGrammar expand visiting g m.grammar key) :
    lib.Knows rule := by
  unfold followGrammar at h
  split at h
  · exact absurd h (by simp)
  · exact hexpand _ m hm _ (knowsPatterns_of_mem hm) rule h

/-- The same for any include. -/
theorem knows_of_mem_follow
    (hexpand : ∀ visiting, ∀ m ∈ lib.members, ∀ patterns, lib.KnowsPatterns patterns →
      ∀ rule, Finding.rule rule ∈ expand visiting m.grammar patterns → lib.Knows rule)
    {visiting : List String} {m : Member} (hm : m ∈ lib.members) (target : Include) (rule : Rule)
    (h : Finding.rule rule ∈ lib.follow expand visiting m.grammar target) : lib.Knows rule := by
  cases target with
  | self => exact knows_of_mem_followGrammar hexpand hm h
  | repository name => exact knows_of_mem_followEntry hexpand hm h
  | grammar scope name =>
    simp only [follow] at h
    split at h
    · exact absurd h (by simp)
    · rename_i other name hother
      obtain ⟨m', hm', rfl⟩ := mem_of_find? hother
      exact knows_of_mem_followEntry hexpand hm' h
    · rename_i other hother
      obtain ⟨m', hm', rfl⟩ := mem_of_find? hother
      exact knows_of_mem_followGrammar hexpand hm' h

end Follow

/-- Walking over known patterns finds known rules, however far includes are followed. -/
theorem knows_of_mem_expand {lib : Library} (fuel : Nat) (visiting : List String) {m : Member}
    (hm : m ∈ lib.members) {patterns : List Pattern} (hp : lib.KnowsPatterns patterns)
    {rule : Rule} (h : Finding.rule rule ∈ lib.expand fuel visiting m.grammar patterns) :
    lib.Knows rule := by
  induction fuel generalizing visiting m patterns rule with
  | zero => rw [expand] at h; exact absurd h (by simp)
  | succ fuel ih =>
    rw [expand] at h
    have hexpand : ∀ visiting, ∀ m ∈ lib.members, ∀ patterns, lib.KnowsPatterns patterns →
        ∀ rule, Finding.rule rule ∈ lib.expand fuel visiting m.grammar patterns →
          lib.Knows rule := fun visiting m hm patterns hp rule h => ih visiting hm hp h
    exact Pattern.rule_of_mem_walkAll (fun _ => trivial) (knows_of_mem_follow hexpand hm) patterns
      (fun e he => hp he) rule h

/-- **Looking for rules stays inside the library.** -/
theorem knows_of_mem_findings {lib : Library} {m : Member} (hm : m ∈ lib.members)
    {patterns : List Pattern} (hp : lib.KnowsPatterns patterns) {rule : Rule}
    (h : Finding.rule rule ∈ lib.findings m.grammar patterns) : lib.Knows rule :=
  knows_of_mem_expand _ _ hm hp h

/-- The rules that patterns stand for are known if the patterns are. -/
theorem knows_of_resolve {lib : Library} {m : Member} (hm : m ∈ lib.members)
    {patterns : List Pattern} (hp : lib.KnowsPatterns patterns) {rules : List Rule}
    (h : (lib.resolve m.grammar patterns).1 = .ok rules) : ∀ rule ∈ rules, lib.Knows rule := by
  intro rule hrule
  have hrules : rules = (lib.findings m.grammar patterns).filterMap Finding.rule? := by
    simp only [resolve, Finding.rules] at h
    split at h
    · simp [Except.mapError] at h
    · simpa [Except.mapError] using h.symm
  rw [hrules, List.mem_filterMap] at hrule
  obtain ⟨finding, hmem, hfinding⟩ := hrule
  cases finding with
  | rule r =>
    obtain rfl := Option.some.inj hfinding
    exact knows_of_mem_findings hm hp hmem
  | cycle w => exact absurd hfinding (by simp [Finding.rule?])
  | missing e => exact absurd hfinding (by simp [Finding.rule?])

end Library

end ScopePaint
