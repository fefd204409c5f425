import ScopePaint.Proofs.Library.Includes

/-!
# What libraries answer

Whether a library is asked for the rules of a grammar or of a region, or to resolve a pattern, it
answers with the rules that the patterns stand for (`Library.includes_resolved`). Rules are kept
from the first answer on, and registering other grammars does not change them. So they are those
that the patterns stood for when they were first asked for: each of the rules that a library keeps
was its answer before (`Library.Built.kept`).
-/

set_option autoImplicit false

namespace ScopePaint

namespace Library

/-- Asking for rules keeps the grammars. -/
theorem Queried.sameGrammars {a b : Library} (h : Queried a b) : SameGrammars a b := by
  induction h with
  | refl => exact .refl _
  | rules id _ ih => exact ih.trans (rules_snd _ id).1
  | nestedRules _ _ ih => exact ih.trans (nestedRules_snd _ _ _).1
  | warn warnings _ ih => exact ih.trans (sameGrammars_warn _ warnings)

/-! ## What becomes of a library -/

/-- What becomes of a library while grammars are registered and it is asked for rules. -/
inductive Grown : Library → Library → Prop
  | refl (lib : Library) : Grown lib lib
  | register {a b : Library} (g : Grammar) (h : Grown a b) : Grown a (b.register g).1
  | queried {a b c : Library} (h : Grown a b) (hq : Queried b c) : Grown a c

namespace Grown

variable {a b c : Library}

/-- What becomes of a library in two parts becomes of it as a whole. -/
theorem trans (h : Grown a b) (h' : Grown b c) : Grown a c := by
  induction h' with
  | refl => exact h
  | register g _ ih => exact .register g ih
  | queried _ hq ih => exact .queried ih hq

/-- The options stay. -/
theorem options_eq (h : Grown a b) : b.options = a.options := by
  induction h with
  | refl => rfl
  | register g _ ih => rw [register_fst, ih]
  | queried _ hq ih => rw [← hq.sameGrammars.options, ih]

/-- Members keep their numbers and their grammars. -/
theorem member (h : Grown a b) {id : Nat} {m : Member} (hm : a.members[id]? = some m) :
    ∃ m', b.members[id]? = some m' ∧ m'.grammar = m.grammar := by
  induction h with
  | refl => exact ⟨m, hm, rfl⟩
  | register g _ ih =>
    obtain ⟨m', hm', hg⟩ := ih
    refine ⟨m', ?_, hg⟩
    rw [members_register, List.getElem?_append_left (List.getElem?_eq_some_iff.1 hm').1, hm']
  | queried _ hq ih =>
    obtain ⟨m', hm', hg⟩ := ih
    obtain ⟨m'', hm'', hg'⟩ := hq.sameGrammars.member hm'
    exact ⟨m'', hm'', hg'.trans hg⟩

/-- No region is lost. -/
theorem regions_subset (h : Grown a b) : a.regions ⊆ b.regions := by
  induction h with
  | refl => exact fun _ he => he
  | register g _ ih => exact fun _ he => regions_register _ g (ih he)
  | queried _ hq ih => exact hq.sameGrammars.regions_eq ▸ ih

/-- Scope names go on standing for something. -/
theorem names_subset (h : Grown a b) : a.names.map (·.1) ⊆ b.names.map (·.1) := by
  induction h with
  | refl => exact fun _ he => he
  | register g _ ih =>
    intro scope hscope
    obtain ⟨entry, hentry, rfl⟩ := List.mem_map.1 (ih hscope)
    rw [names_register, List.map_cons, List.mem_cons]
    by_cases he : entry.1 = g.scopeName.text
    · exact Or.inl he
    · exact Or.inr (List.mem_map_of_mem (List.mem_filter.2 ⟨hentry, by simpa using he⟩))
  | queried _ hq ih => exact hq.sameGrammars.names ▸ ih

/-- A grammar that still counts behind another one counted before. -/
theorem isRegistered_of_register {lib : Library} {g : Grammar} {id : Nat} {m : Member}
    (hm : lib.members[id]? = some m) (h : (lib.register g).1.isRegistered id = true) :
    lib.isRegistered id = true := by
  have hlt := (List.getElem?_eq_some_iff.1 hm).1
  have hold : lib.grammar? id = some m.grammar := by rw [grammar?, hm]; rfl
  have hnew : (lib.register g).1.grammar? id = some m.grammar := by
    rw [grammar?, members_register, List.getElem?_append_left hlt, hm]; rfl
  simp only [isRegistered, hnew] at h
  simp only [isRegistered, hold]
  by_cases hscope : m.grammar.scopeName.text = g.scopeName.text
  · -- The name stands for the new grammar, whose number is none of the old ones.
    rw [hscope, id?, names_register, List.lookup_cons_self] at h
    have hid : lib.members.length = id := Option.some.inj (eq_of_beq h)
    omega
  · rw [id?_register_of_ne lib g hscope] at h
    exact h

/-- A grammar that still is registered was so before. -/
theorem isRegistered (h : Grown a b) {id : Nat} {m : Member} (hm : a.members[id]? = some m)
    (hr : b.isRegistered id = true) : a.isRegistered id = true := by
  induction h with
  | refl => exact hr
  | register g hgrown ih =>
    obtain ⟨m', hm', -⟩ := hgrown.member hm
    exact ih (isRegistered_of_register hm' hr)
  | queried _ hq ih => exact ih (hq.sameGrammars.isRegistered_eq ▸ hr)

/-- If all grammars are loaded afterwards, those from before are. -/
theorem loaded (h : Grown a b) (hb : b.Loaded) : a.Loaded := by
  intro m hm
  obtain ⟨id, hid⟩ := List.mem_iff_getElem?.1 hm
  obtain ⟨m', hm', hg⟩ := h.member hid
  rw [← hg]
  exact hb m' (List.mem_of_getElem? hm')

/-- If no scope name holds the mark afterwards, none did before. -/
theorem separable (h : Grown a b) (hb : b.Separable) : a.Separable := by
  intro entry hentry
  obtain ⟨entry', hentry', heq⟩ := List.mem_map.1 (h.names_subset (List.mem_map_of_mem hentry))
  rw [← heq]
  exact hb entry' hentry'

end Grown

/-! ## What is kept -/

/-- A library that keeps no rules for a member finds these. -/
def FindsRules (lib : Library) (id : Nat) (rules : List Rule) : Prop :=
  ∃ m, lib.members[id]? = some m ∧ m.rules = none ∧ (lib.rules id).1 = .ok rules

/-- A library that keeps no rules for the region with a place finds these. -/
def FindsNested (lib : Library) (place : RegionPlace) (rules : List Rule) : Prop :=
  ∃ e ∈ lib.regions, e.1.place = place ∧ lib.nested.lookup place = none ∧
    (lib.nestedRules e.1 e.2).1 = .ok rules

/-- What a library keeps was found before. -/
structure Kept (lib : Library) : Prop where
  rules : ∀ id m rules, lib.members[id]? = some m → m.rules = some rules →
    ∃ since : Library, since.Built ∧ Grown since lib ∧ since.FindsRules id rules
  nested : ∀ place rules, lib.nested.lookup place = some rules →
    ∃ since : Library, since.Built ∧ Grown since lib ∧ since.FindsNested place rules

/-- What a library keeps was kept by the one that it came of, or was found by it. -/
theorem Kept.grow {a b : Library} (h : a.Kept) (ha : a.Built) (hg : Grown a b)
    (hrules : ∀ id m' rules, b.members[id]? = some m' → m'.rules = some rules →
      (∃ m, a.members[id]? = some m ∧ m.rules = some rules) ∨ a.FindsRules id rules)
    (hnested : ∀ place rules, b.nested.lookup place = some rules →
      a.nested.lookup place = some rules ∨ a.FindsNested place rules) : b.Kept where
  rules := by
    intro id m' rules hm' hkept
    rcases hrules id m' rules hm' hkept with ⟨m, hm, hm_rules⟩ | hfound
    · obtain ⟨since, hbuilt, hgrown, hfound⟩ := h.rules id m rules hm hm_rules
      exact ⟨since, hbuilt, hgrown.trans hg, hfound⟩
    · exact ⟨a, ha, hg, hfound⟩
  nested := by
    intro place rules hkept
    rcases hnested place rules hkept with hold | hfound
    · obtain ⟨since, hbuilt, hgrown, hfound⟩ := h.nested place rules hold
      exact ⟨since, hbuilt, hgrown.trans hg, hfound⟩
    · exact ⟨a, ha, hg, hfound⟩

/-- After registering a grammar, too, what is kept was found before. -/
theorem Kept.register {lib : Library} (h : lib.Kept) (hb : lib.Built) (g : Grammar) :
    (lib.register g).1.Kept := by
  refine h.grow hb (.register g (.refl lib)) ?_ fun place rules hkept => Or.inl ?_
  · intro id m' rules hm' hkept
    rw [members_register] at hm'
    rcases Nat.lt_or_ge id lib.members.length with hlt | hge
    · rw [List.getElem?_append_left hlt] at hm'
      exact Or.inl ⟨m', hm', hkept⟩
    · rw [List.getElem?_append_right hge, List.getElem?_singleton] at hm'
      split at hm'
      · obtain rfl := Option.some.inj hm'
        exact absurd hkept (by simp)
      · exact absurd hm' (by simp)
  · rwa [nested_register] at hkept

/-- So it was after looking for the rules of a grammar. -/
theorem Kept.rules_snd {lib : Library} (h : lib.Kept) (hb : lib.Built) (id : Nat) :
    (lib.rules id).2.Kept := by
  obtain ⟨-, hnested, hmembers⟩ := lib.rules_snd id
  refine h.grow hb (.queried (.refl lib) (.rules id (.refl lib))) ?_
    fun place rules hkept => Or.inl (hnested ▸ hkept)
  intro j m' rules hm' hkept
  obtain ⟨m, hm, hcase⟩ := hmembers j m' hm'
  rcases hcase with heq | ⟨rfl, hnone, found, hfound, hanswer⟩
  · exact Or.inl ⟨m, hm, heq ▸ hkept⟩
  · obtain rfl : found = rules := Option.some.inj (hfound.symm.trans hkept)
    exact Or.inr ⟨m, hm, hnone, hanswer⟩

/-- Under a place are found the rules that were kept there, or those that were just found. -/
theorem lookup_nestedRules_snd {lib : Library} {r : Region} {patterns : List Pattern}
    {place : RegionPlace} {rules : List Rule}
    (h : (lib.nestedRules r patterns).2.nested.lookup place = some rules) :
    lib.nested.lookup place = some rules ∨
      r.place = place ∧ lib.nested.lookup place = none ∧
        (lib.nestedRules r patterns).1 = .ok rules := by
  cases hkept : lib.nested.lookup r.place with
  | some old =>
    have hsame : (lib.nestedRules r patterns).2 = lib := by
      unfold nestedRules
      rw [hkept]
    exact Or.inl (hsame ▸ h)
  | none =>
    rcases (lib.nestedRules_snd r patterns).2.2 with heq | ⟨found, hanswer, heq⟩
    · exact Or.inl (heq ▸ h)
    · rw [heq, List.lookup_cons] at h
      by_cases hplace : place = r.place
      · rw [hplace, beq_self_eq_true] at h
        obtain rfl : found = rules := Option.some.inj h
        exact Or.inr ⟨hplace.symm, hplace ▸ hkept, hanswer⟩
      · rw [beq_eq_false_iff_ne.2 hplace] at h
        exact Or.inl h

/-- So it was after looking for those of a region. -/
theorem Kept.nestedRules_snd {lib : Library} (h : lib.Kept) (hb : lib.Built) {e : RegionEntry}
    (he : e ∈ lib.regions) : (lib.nestedRules e.1 e.2).2.Kept := by
  obtain ⟨-, hmembers, -⟩ := lib.nestedRules_snd e.1 e.2
  refine h.grow hb (.queried (.refl lib) (.nestedRules he (.refl lib))) ?_ ?_
  · intro id m' rules hm' hkept
    rw [hmembers] at hm'
    exact Or.inl ⟨m', hm', hkept⟩
  · intro place rules hkept
    rcases lookup_nestedRules_snd hkept with hold | ⟨hplace, hnone, hanswer⟩
    · exact Or.inl hold
    · exact Or.inr ⟨e, he, hplace, hnone, hanswer⟩

/-- So it was after any questions. -/
theorem Kept.queried {a b : Library} (h : a.Kept) (ha : a.Built) (hq : Queried a b) : b.Kept := by
  induction hq with
  | refl => exact h
  | rules id hq ih => exact ih.rules_snd (.queried hq ha) id
  | nestedRules he hq ih => exact ih.nestedRules_snd (.queried hq ha) he
  | warn warnings hq ih =>
    refine ih.grow (.queried hq ha) (.queried (.refl _) (.warn warnings (.refl _))) ?_ ?_
    · exact fun id m' rules hm' hkept => Or.inl ⟨m', hm', hkept⟩
    · exact fun place rules hkept => Or.inl hkept

/-- **The rules that a library keeps were found before**, by it or by one that it came of. -/
theorem Built.kept {lib : Library} (h : lib.Built) : lib.Kept := by
  induction h with
  | empty options => exact ⟨fun id m rules hm => by simp [Library.empty] at hm,
      fun place rules hkept => by simp [Library.empty] at hkept⟩
  | register g hb ih => exact ih.register hb g
  | queried hq hb ih => exact ih.queried hb hq

/-! ## Answers -/

/-- What a library needs so that all includes in it can be followed: its grammars were loaded, their
names are without the mark of includes, and an include of nothing is no error. -/
structure Resolvable (lib : Library) : Prop where
  built : lib.Built
  loaded : lib.Loaded
  separable : lib.Separable
  warns : lib.options.missing = .warn

/-- If all includes can be followed afterwards, they could be before. -/
theorem Grown.resolvable {a b : Library} (h : Grown a b) (ha : a.Built) (hb : b.Resolvable) :
    a.Resolvable :=
  ⟨ha, h.loaded hb.loaded, h.separable hb.separable, h.options_eq ▸ hb.warns⟩

namespace Resolvable

variable {lib : Library} {id : Nat} {m : Member}

/-- Where all includes can be followed, patterns are resolved. -/
theorem resolve (h : lib.Resolvable) {g : Grammar} (hg : lib.Stands g) (patterns : List Pattern) :
    ∃ rules, (lib.resolve g patterns).1 = .ok rules ∧ lib.Resolved g patterns rules :=
  resolved_resolve h.built.named h.separable h.warns hg patterns

/-- Rules of a registered grammar that are not kept are found. -/
theorem rules_of_none (h : lib.Resolvable) (hm : lib.members[id]? = some m)
    (hr : lib.isRegistered id = true) (hnone : m.rules = none) :
    ∃ rules, (lib.rules id).1 = .ok rules ∧
      lib.Resolved m.grammar m.grammar.patterns rules := by
  obtain ⟨rules, hrules, hresolved⟩ := h.resolve (stands_of_isRegistered hm hr) m.grammar.patterns
  refine ⟨rules, ?_, hresolved⟩
  simp only [rules_fst, hm, hr, if_true, hnone, hrules]

/-- Rules of a region of a registered grammar that are not kept are found. -/
theorem nestedRules_of_none (h : lib.Resolvable) (hm : lib.members[id]? = some m)
    (hr : lib.isRegistered id = true) {e : RegionEntry} (he : e ∈ m.grammar.regions)
    (hnone : lib.nested.lookup e.1.place = none) :
    ∃ rules, (lib.nestedRules e.1 e.2).1 = .ok rules ∧ lib.Resolved m.grammar e.2 rules := by
  have hstands := stands_of_isRegistered hm hr
  have hfind : lib.find? e.1.grammar.text = some m.grammar := by
    rw [h.loaded.grammar_eq (List.mem_of_getElem? hm) he]
    exact hstands
  obtain ⟨rules, hrules, hresolved⟩ := h.resolve hstands e.2
  refine ⟨rules, ?_, hresolved⟩
  simp only [nestedRules_fst, hnone, hfind, hrules]

/-- The rules of a registered grammar are those that its patterns stood for when they were first
asked for. -/
theorem exists_rules (h : lib.Resolvable) (hm : lib.members[id]? = some m)
    (hr : lib.isRegistered id = true) :
    ∃ since rules, Grown since lib ∧ since.Stands m.grammar ∧ (m.rules = none → since = lib) ∧
      (lib.rules id).1 = .ok rules ∧ since.Resolved m.grammar m.grammar.patterns rules := by
  cases hkept : m.rules with
  | none =>
    obtain ⟨rules, hrules, hresolved⟩ := h.rules_of_none hm hr hkept
    exact ⟨lib, rules, .refl lib, stands_of_isRegistered hm hr, fun _ => rfl, hrules, hresolved⟩
  | some rules =>
    obtain ⟨since, hbuilt, hgrown, m', hm', hnone, hfound⟩ := h.built.kept.rules id m rules hm hkept
    obtain ⟨m'', hm'', hg⟩ := hgrown.member hm'
    obtain rfl := Option.some.inj (hm.symm.trans hm'')
    have hr' := hgrown.isRegistered hm' hr
    obtain ⟨found, hfound', hresolved⟩ :=
      (hgrown.resolvable hbuilt h).rules_of_none hm' hr' hnone
    obtain rfl := Except.ok.inj (hfound.symm.trans hfound')
    rw [hg]
    refine ⟨since, rules, hgrown, stands_of_isRegistered hm' hr', fun habs => ?_, ?_, hresolved⟩
    · exact absurd habs (by simp)
    · simp only [rules_fst, hm, hr, if_true, hkept]

/-- The rules of a region of a registered grammar are those that its patterns stood for when they
were first asked for. -/
theorem exists_nestedRules (h : lib.Resolvable) (hm : lib.members[id]? = some m)
    (hr : lib.isRegistered id = true) {e : RegionEntry} (he : e ∈ m.grammar.regions) :
    ∃ since rules, Grown since lib ∧ since.Stands m.grammar ∧
      (lib.nested.lookup e.1.place = none → since = lib) ∧
      (lib.nestedRules e.1 e.2).1 = .ok rules ∧ since.Resolved m.grammar e.2 rules := by
  cases hkept : lib.nested.lookup e.1.place with
  | none =>
    obtain ⟨rules, hrules, hresolved⟩ := h.nestedRules_of_none hm hr he hkept
    exact ⟨lib, rules, .refl lib, stands_of_isRegistered hm hr, fun _ => rfl, hrules, hresolved⟩
  | some rules =>
    obtain ⟨since, hbuilt, hgrown, e', he', hplace, hnone, hfound⟩ :=
      h.built.kept.nested e.1.place rules hkept
    -- The region under this place is this one, and it stood in the same grammar.
    obtain rfl : e' = e := h.built.sound.placed.unique (hgrown.regions_subset he')
      (regions_subset_of_mem (List.mem_of_getElem? hm) he) hplace
    obtain ⟨m', hmem', hem'⟩ := List.mem_flatMap.1 he'
    obtain ⟨id', hm'⟩ := List.mem_iff_getElem?.1 hmem'
    obtain rfl : id' = id := by
      rw [← hbuilt.sound.placed.grammar_of_mem hm' hem', h.built.sound.placed.grammar_of_mem hm he]
    obtain ⟨m'', hm'', hg⟩ := hgrown.member hm'
    obtain rfl := Option.some.inj (hm.symm.trans hm'')
    have hr' := hgrown.isRegistered hm' hr
    obtain ⟨found, hfound', hresolved⟩ :=
      (hgrown.resolvable hbuilt h).nestedRules_of_none hm' hr' hem' hnone
    obtain rfl := Except.ok.inj (hfound.symm.trans hfound')
    rw [hg]
    refine ⟨since, rules, hgrown, stands_of_isRegistered hm' hr', fun habs => ?_, ?_, hresolved⟩
    · exact absurd habs (by simp)
    · simp only [nestedRules_fst, hkept]

end Resolvable

/-- **Includes are resolved, and nothing is lost.** In a library of loaded grammars whose names are
without the mark of includes, where an include of nothing is no error, each pattern of a registered
grammar can be resolved, and the rules of each registered grammar and of each of its regions are
found, whatever else the library was asked before. The answer is the list of rules that the patterns
stand for. Answers are kept: if the rules of a grammar or a region were asked for before some other
grammars were registered, it is those that the patterns stood for then. -/
theorem includes_resolved {lib lib' : Library} (hb : lib.Built) (hl : lib.Loaded)
    (hsep : lib.Separable) (hwarn : lib.options.missing = .warn) (hq : lib.Queried lib') :
    (∀ g, lib.Stands g → ∀ p : Pattern,
      ∃ rules, (lib'.resolve g [p]).1 = .ok rules ∧ lib.Resolved g [p] rules) ∧
    ∀ id m, lib.members[id]? = some m → lib.isRegistered id = true →
      (∃ since rules, Grown since lib ∧ since.Stands m.grammar ∧ (m.rules = none → since = lib) ∧
        (lib'.rules id).1 = .ok rules ∧ since.Resolved m.grammar m.grammar.patterns rules) ∧
      ∀ e ∈ m.grammar.regions, ∃ since rules, Grown since lib ∧ since.Stands m.grammar ∧
        (lib.nested.lookup e.1.place = none → since = lib) ∧
        (lib'.nestedRules e.1 e.2).1 = .ok rules ∧ since.Resolved m.grammar e.2 rules := by
  have hagrees := hq.agrees hb.sound
  have hlib : lib.Resolvable := ⟨hb, hl, hsep, hwarn⟩
  refine ⟨fun g hg p => ?_, fun id m hm hr => ⟨?_, fun e he => ?_⟩⟩
  · rw [← hagrees.resolve_eq]
    exact hlib.resolve hg [p]
  · rw [← hagrees.rules]
    exact hlib.exists_rules hm hr
  · rw [← hagrees.nested e (regions_subset_of_mem (List.mem_of_getElem? hm) he)]
    exact hlib.exists_nestedRules hm hr he

/-! ## Two grammars that include each other -/

/-- A grammar file that includes another grammar before its own pattern. -/
def mirrorRecord (scope other name source : String) : GrammarRecord where
  scopeName := scope
  patterns := [{ includeText := some other }, { name := some name, matchSource := some source }]

/-- The one of the two grammars. -/
def leftGrammar : Grammar :=
  (mirrorRecord "source.left" "source.right" "left" "l").compile.toOption.getD
    { scopeName := ⟨""⟩ }

/-- The other one. -/
def rightGrammar : Grammar :=
  (mirrorRecord "source.right" "source.left" "right" "r").compile.toOption.getD
    { scopeName := ⟨""⟩ }

/-- A library with both of them. -/
def mirrorLibrary : Library := (((Library.empty {}).register leftGrammar).1.register rightGrammar).1

/-- The rules of a grammar that includes another one which includes it: its own rule is found inside
of the other one, and again behind it. -/
theorem includes_resolved_mirrored :
    ∃ rules, (mirrorLibrary.rules 0).1 = .ok rules ∧
      mirrorLibrary.Resolved (leftGrammar.place 0) (leftGrammar.place 0).patterns rules ∧
      rules.map Rule.scope = [some ⟨"left"⟩, some ⟨"right"⟩, some ⟨"left"⟩] := by
  have hbuilt : mirrorLibrary.Built := .register _ (.register _ (.empty {}))
  have hleft : ((Library.empty {}).register leftGrammar).1.Loaded :=
    (Library.Loaded.empty {}).register (GrammarRecord.compile_of_isOk (by decide +kernel))
  have hloaded : mirrorLibrary.Loaded :=
    hleft.register (GrammarRecord.compile_of_isOk (by decide +kernel))
  have hsep : mirrorLibrary.Separable := by unfold Separable; decide +kernel
  have hm : mirrorLibrary.members[0]? = some { grammar := leftGrammar.place 0 } := by
    rw [mirrorLibrary, members_register, members_register]
    rfl
  have hscopes : ((mirrorLibrary.rules 0).1.toOption.getD []).map Rule.scope =
      [some ⟨"left"⟩, some ⟨"right"⟩, some ⟨"left"⟩] := by decide +kernel
  obtain ⟨since, rules, -, -, hsince, hrules, hresolved⟩ :=
    ((includes_resolved hbuilt hloaded hsep (by decide +kernel) (.refl _)).2 0 _ hm
      (by decide +kernel)).1
  obtain rfl := hsince rfl
  rw [hrules] at hscopes
  exact ⟨rules, hrules, hresolved, hscopes⟩

end Library

end ScopePaint
