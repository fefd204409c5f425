import ScopePaint.Proofs.Library.KnownRules
import ScopePaint.Proofs.Tables

/-!
# Asking a library changes no answer

Looking for rules keeps what it finds and writes warnings down. `Library.Queried` is the relation
between a library and what becomes of it while it is asked for rules, and `Library.Built` holds of
the libraries that registering grammars and asking for rules can make of an empty one.

Two libraries agree if they give the same rules for every grammar and for each of their regions.
Asking leads only to libraries that agree with the one it began with (`Queried.agrees`): what is
kept is what would be found again. This rests on the places of regions, under which their rules are
kept, and on all kept rules being rules of the library (`Built.sound`).
-/

set_option autoImplicit false

namespace ScopePaint

namespace Library

/-! ## Libraries with the same grammars -/

/-- The same grammars stand for the same names, and are used in the same way. -/
structure SameGrammars (a b : Library) : Prop where
  options : a.options = b.options
  names : a.names = b.names
  grammars : a.members.map (·.grammar) = b.members.map (·.grammar)

namespace SameGrammars

variable {a b c : Library}

/-- A library has its own grammars. -/
theorem refl (a : Library) : SameGrammars a a := ⟨rfl, rfl, rfl⟩

/-- Having the same grammars does not depend on the order. -/
theorem symm (h : SameGrammars a b) : SameGrammars b a :=
  ⟨h.options.symm, h.names.symm, h.grammars.symm⟩

/-- Having the same grammars carries over. -/
theorem trans (h : SameGrammars a b) (h' : SameGrammars b c) : SameGrammars a c :=
  ⟨h.options.trans h'.options, h.names.trans h'.names, h.grammars.trans h'.grammars⟩

/-- The same grammars have the same numbers. -/
theorem grammar?_eq (h : SameGrammars a b) : a.grammar? = b.grammar? := by
  funext id
  unfold grammar?
  rw [← List.getElem?_map, ← List.getElem?_map, h.grammars]

/-- The same names have the same numbers. -/
theorem id?_eq (h : SameGrammars a b) : a.id? = b.id? := by
  funext scope
  unfold id?
  rw [h.names]

/-- The same scopes are named. -/
theorem scopes_eq (h : SameGrammars a b) : a.scopes = b.scopes := by
  unfold scopes
  rw [h.names]

/-- The same names stand for the same grammars. -/
theorem find?_eq (h : SameGrammars a b) : a.find? = b.find? := by
  funext scope
  unfold find?
  rw [h.id?_eq, h.grammar?_eq]

/-- The same grammars count. -/
theorem isRegistered_eq (h : SameGrammars a b) : a.isRegistered = b.isRegistered := by
  funext id
  unfold isRegistered
  rw [h.grammar?_eq, h.id?_eq]

/-- The regions are the same. -/
theorem regions_eq (h : SameGrammars a b) : a.regions = b.regions := by
  have hmap : ∀ lib : Library, lib.regions = (lib.members.map (·.grammar)).flatMap Grammar.regions :=
    fun lib => by rw [List.flatMap_map]; rfl
  rw [hmap, hmap, h.grammars]

/-- So is their number. -/
theorem regionCount_eq (h : SameGrammars a b) : a.regionCount = b.regionCount := by
  rw [Library.regionCount_eq, Library.regionCount_eq, h.regions_eq]

/-- The same rules are known. -/
theorem knows_iff (h : SameGrammars a b) (rule : Rule) : a.Knows rule ↔ b.Knows rule := by
  cases rule with
  | single r => exact Iff.rfl
  | region r ps => unfold Knows; rw [h.regions_eq]

/-- As many keys are counted. -/
theorem keyCount_eq (h : SameGrammars a b) : a.keyCount = b.keyCount := by
  have hmap : ∀ lib : Library, (lib.members.map fun m => m.grammar.repository.length + 1) =
      (lib.members.map (·.grammar)).map fun g => g.repository.length + 1 := by
    intro lib
    rw [List.map_map]
    rfl
  funext g
  unfold keyCount
  rw [hmap, hmap, h.grammars]

/-- Includes are followed in the same way. -/
theorem follow_eq (h : SameGrammars a b) : a.follow = b.follow := by
  funext expand visiting g target
  cases target with
  | self => rfl
  | repository name => rfl
  | grammar scope name => simp only [follow, h.find?_eq]

/-- Walks meet the same findings. -/
theorem expand_eq (h : SameGrammars a b) : a.expand = b.expand := by
  funext fuel
  induction fuel with
  | zero => rfl
  | succ fuel ih =>
    funext visiting g patterns
    rw [expand, expand, ih, h.follow_eq]

/-- The same grammars are walked over in the same way. -/
theorem findings_eq (h : SameGrammars a b) : a.findings = b.findings := by
  funext g patterns
  unfold findings
  rw [h.expand_eq, h.keyCount_eq]

/-- Patterns are resolved to the same rules. -/
theorem resolve_eq (h : SameGrammars a b) (g : Grammar) (patterns : List Pattern) :
    (a.resolve g patterns).1 = (b.resolve g patterns).1 := by
  simp only [resolve]
  rw [h.findings_eq, h.options]

/-- Members with the same number hold the same grammar. -/
theorem member (h : SameGrammars a b) {id : Nat} {m : Member} (hm : a.members[id]? = some m) :
    ∃ m', b.members[id]? = some m' ∧ m'.grammar = m.grammar := by
  have hg : (b.members.map (·.grammar))[id]? = some m.grammar := by
    rw [← h.grammars, List.getElem?_map, hm, Option.map_some]
  rw [List.getElem?_map, Option.map_eq_some_iff] at hg
  exact hg

end SameGrammars

/-! ## One question -/

/-- Warnings do not change the grammars. -/
theorem sameGrammars_warn (lib : Library) (warnings : List Warning) :
    SameGrammars lib (lib.warn warnings) := ⟨rfl, rfl, rfl⟩

/-- Changing what else is known of a member does not change the grammars. -/
theorem map_grammar_modify (members : List Member) (id : Nat) {f : Member → Member}
    (hf : ∀ m, (f m).grammar = m.grammar) :
    (members.modify id f).map (·.grammar) = members.map (·.grammar) := by
  apply List.ext_getElem?
  intro j
  simp only [List.getElem?_map, List.getElem?_modify]
  cases members[j]? with
  | none => rfl
  | some m => by_cases h : id = j <;> simp [h, hf]

/-- A member of a changed list was changed or stands in the list as it was. -/
theorem exists_of_getElem?_modify {members : List Member} {id j : Nat} {f : Member → Member}
    {m' : Member} (h : (members.modify id f)[j]? = some m') :
    ∃ m, members[j]? = some m ∧ m' = if id = j then f m else m := by
  rw [List.getElem?_modify] at h
  obtain ⟨m, hm, rfl⟩ := Option.map_eq_some_iff.1 h
  refine ⟨m, hm, ?_⟩
  split <;> rfl

/-- What a library answers when it is asked for the rules of a grammar. -/
theorem rules_fst (lib : Library) (id : Nat) :
    (lib.rules id).1 =
      match lib.members[id]? with
      | none => .error (.unregistered "")
      | some m =>
        if lib.isRegistered id then
          match m.rules with
          | some rules => .ok rules
          | none => (lib.resolve m.grammar m.grammar.patterns).1
        else .error (.unregistered m.grammar.scopeName.text) := by
  unfold rules
  cases lib.members[id]? with
  | none => rfl
  | some m =>
    dsimp only
    by_cases hr : lib.isRegistered id = true
    · rw [if_pos hr, if_pos hr]
      cases m.rules with
      | some rules => rfl
      | none =>
        dsimp only
        cases (lib.resolve m.grammar m.grammar.patterns).1 <;> rfl
    · rw [if_neg hr, if_neg hr]

/-- What a library answers when it is asked for the rules of a region. -/
theorem nestedRules_fst (lib : Library) (r : Region) (patterns : List Pattern) :
    (lib.nestedRules r patterns).1 =
      match lib.nested.lookup r.place with
      | some rules => .ok rules
      | none =>
        match lib.find? r.grammar.text with
        | none => .error (.unregistered r.grammar.text)
        | some g => (lib.resolve g patterns).1 := by
  unfold nestedRules
  cases lib.nested.lookup r.place with
  | some rules => rfl
  | none =>
    dsimp only
    cases lib.find? r.grammar.text with
    | none => rfl
    | some g =>
      dsimp only
      split
      · rename_i h; rw [h]
      · rename_i h; rw [h]

/-- Looking for rules fails only where the grammar is wrong. -/
theorem resolve_error {lib : Library} {g : Grammar} {patterns : List Pattern} {e : Failure}
    (h : (lib.resolve g patterns).1 = .error e) : ∃ cause, e = .grammar cause := by
  simp only [resolve] at h
  cases hrules : Finding.rules lib.options.missing (lib.findings g patterns) with
  | error cause => rw [hrules] at h; exact ⟨cause, (Except.error.inj h).symm⟩
  | ok rules => rw [hrules] at h; exact absurd h (by simp [Except.mapError])

/-- Asking for the rules of a grammar keeps at most these rules, with that grammar. -/
theorem rules_snd (lib : Library) (id : Nat) :
    SameGrammars lib (lib.rules id).2 ∧ (lib.rules id).2.nested = lib.nested ∧
      ∀ j m', (lib.rules id).2.members[j]? = some m' →
        ∃ m, lib.members[j]? = some m ∧
          (m'.rules = m.rules ∨
            j = id ∧ m.rules = none ∧ ∃ rules, m'.rules = some rules ∧
              (lib.rules id).1 = .ok rules) := by
  have hsame : SameGrammars lib lib ∧ lib.nested = lib.nested ∧
      ∀ j m', lib.members[j]? = some m' → ∃ m, lib.members[j]? = some m ∧
        (m'.rules = m.rules ∨ j = id ∧ m.rules = none ∧ ∃ rules, m'.rules = some rules ∧
          (lib.rules id).1 = .ok rules) :=
    ⟨.refl lib, rfl, fun j m' h => ⟨m', h, Or.inl rfl⟩⟩
  rw [rules_fst] at hsame ⊢
  unfold rules
  cases hm : lib.members[id]? with
  | none => simpa only [hm] using hsame
  | some m =>
    simp only [hm] at hsame ⊢
    by_cases hr : lib.isRegistered id = true
    · simp only [if_pos hr] at hsame ⊢
      cases hkept : m.rules with
      | some rules => simpa only [hkept] using hsame
      | none =>
        dsimp only
        clear hsame
        cases hresult : (lib.resolve m.grammar m.grammar.patterns).1 with
        | error e =>
          refine ⟨⟨rfl, rfl, ?_⟩, rfl, ?_⟩
          · dsimp only [modifyMember]
            rw [map_grammar_modify]
            · rfl
            · exact fun _ => rfl
          · intro j m' hj
            obtain ⟨mj, hmj, rfl⟩ := exists_of_getElem?_modify hj
            refine ⟨mj, hmj, Or.inl ?_⟩
            split <;> rfl
        | ok rules =>
          refine ⟨⟨rfl, rfl, ?_⟩, rfl, ?_⟩
          · dsimp only [modifyMember]
            rw [map_grammar_modify, map_grammar_modify]
            · rfl
            · exact fun _ => rfl
            · exact fun _ => rfl
          · intro j m' hj
            -- The member was changed twice: its answers were counted, and then its rules were kept.
            obtain ⟨mc, hmc, rfl⟩ := exists_of_getElem?_modify hj
            obtain ⟨mj, hmj, rfl⟩ := exists_of_getElem?_modify hmc
            refine ⟨mj, hmj, ?_⟩
            by_cases hij : id = j
            · subst hij
              obtain rfl := Option.some.inj (hm.symm.trans hmj)
              exact Or.inr ⟨rfl, hkept, rules, by simp, rfl⟩
            · exact Or.inl (by simp [hij])
    · simpa only [if_neg hr] using hsame

/-- Asking for the rules of a region keeps at most these rules, under its place. -/
theorem nestedRules_snd (lib : Library) (r : Region) (patterns : List Pattern) :
    SameGrammars lib (lib.nestedRules r patterns).2 ∧
      (lib.nestedRules r patterns).2.members = lib.members ∧
      ((lib.nestedRules r patterns).2.nested = lib.nested ∨
        ∃ rules, (lib.nestedRules r patterns).1 = .ok rules ∧
          (lib.nestedRules r patterns).2.nested = (r.place, rules) :: lib.nested) := by
  unfold nestedRules
  cases lib.nested.lookup r.place with
  | some rules => exact ⟨.refl lib, rfl, Or.inl rfl⟩
  | none =>
    dsimp only
    cases lib.find? r.grammar.text with
    | none => exact ⟨.refl lib, rfl, Or.inl rfl⟩
    | some g =>
      dsimp only
      have hwarn : (lib.resolve g patterns).2 = lib.warn _ := rfl
      split
      · rename_i rules lib' h
        obtain rfl : lib' = _ := (congrArg Prod.snd h).symm
        exact ⟨⟨rfl, rfl, rfl⟩, rfl, Or.inr ⟨rules, rfl, rfl⟩⟩
      · rename_i e lib' h
        obtain rfl : lib' = _ := (congrArg Prod.snd h).symm
        exact ⟨⟨rfl, rfl, rfl⟩, rfl, Or.inl rfl⟩

/-! ## What a library keeps -/

/-- What is kept are rules of the library, and every grammar's scope name stands for some grammar. -/
structure Sound (lib : Library) : Prop where
  placed : lib.Placed
  enrolled : ∀ m ∈ lib.members, (lib.find? m.grammar.scopeName.text).isSome
  kept : ∀ m ∈ lib.members, ∀ rules, m.rules = some rules → ∀ rule ∈ rules, lib.Knows rule
  keptNested : ∀ entry ∈ lib.nested, ∀ rule ∈ entry.2, lib.Knows rule

namespace Sound

variable {lib : Library}

/-- The empty library is sound. -/
theorem empty (options : LibraryOptions) : (Library.empty options).Sound :=
  { placed := by intro i m h; simp [Library.empty] at h
    enrolled := by intro m h; simp [Library.empty] at h
    kept := by intro m h; simp [Library.empty] at h
    keptNested := by intro e h; simp [Library.empty] at h }

/-- **The rules of a grammar are rules of the library.** -/
theorem knows_of_rules (h : lib.Sound) {id : Nat} {rules : List Rule}
    (hrules : (lib.rules id).1 = .ok rules) : ∀ rule ∈ rules, lib.Knows rule := by
  rw [rules_fst] at hrules
  cases hm : lib.members[id]? with
  | none => simp [hm] at hrules
  | some m =>
    have hmem := List.mem_of_getElem? hm
    by_cases hr : lib.isRegistered id = true
    · simp only [hm, if_pos hr] at hrules
      cases hkept : m.rules with
      | none =>
        simp only [hkept] at hrules
        exact knows_of_resolve hmem (knowsPatterns_of_mem hmem) hrules
      | some found =>
        simp only [hkept, Except.ok.injEq] at hrules
        exact hrules ▸ h.kept m hmem found hkept
    · simp [hm, if_neg hr] at hrules

/-- **The rules of a region are rules of the library.** -/
theorem knows_of_nestedRules (h : lib.Sound) {e : RegionEntry} (he : e ∈ lib.regions)
    {rules : List Rule} (hrules : (lib.nestedRules e.1 e.2).1 = .ok rules) :
    ∀ rule ∈ rules, lib.Knows rule := by
  rw [nestedRules_fst] at hrules
  cases hkept : lib.nested.lookup e.1.place with
  | some found =>
    simp only [hkept, Except.ok.injEq] at hrules
    obtain ⟨front, back, hlist, -⟩ := List.lookup_eq_some_iff.1 hkept
    exact hrules ▸ h.keptNested (e.1.place, found) (by rw [hlist]; simp)
  | none =>
    simp only [hkept] at hrules
    cases hg : lib.find? e.1.grammar.text with
    | none => simp [hg] at hrules
    | some g =>
      simp only [hg] at hrules
      obtain ⟨m, hm, rfl⟩ := mem_of_find? hg
      exact knows_of_resolve hm (regionsAll_subset_of_mem he) hrules

/-- Whatever keeps the grammars and keeps known rules is sound again. -/
theorem of_sameGrammars {lib' : Library} (h : lib.Sound) (hs : SameGrammars lib lib')
    (hkept : ∀ m' ∈ lib'.members, ∀ rules, m'.rules = some rules → ∀ rule ∈ rules, lib.Knows rule)
    (hnested : ∀ entry ∈ lib'.nested, ∀ rule ∈ entry.2, lib.Knows rule) : lib'.Sound where
  placed := by
    intro i m' hm'
    obtain ⟨m, hm, hg⟩ := hs.symm.member hm'
    obtain ⟨g, hplace⟩ := h.placed i m hm
    exact ⟨g, hg ▸ hplace⟩
  enrolled := by
    intro m' hm'
    obtain ⟨i, hi⟩ := List.mem_iff_getElem?.1 hm'
    obtain ⟨m, hm, hg⟩ := hs.symm.member hi
    rw [← hs.find?_eq, ← hg]
    exact h.enrolled m (List.mem_of_getElem? hm)
  kept := fun m' hm' rules hr rule hrule => (hs.knows_iff rule).1 (hkept m' hm' rules hr rule hrule)
  keptNested := fun entry he rule hrule => (hs.knows_iff rule).1 (hnested entry he rule hrule)

/-- Warnings keep a library sound. -/
theorem warn (h : lib.Sound) (warnings : List Warning) : (lib.warn warnings).Sound :=
  h.of_sameGrammars (sameGrammars_warn lib warnings) h.kept h.keptNested

/-- Looking for the rules of a grammar keeps a library sound. -/
theorem rules (h : lib.Sound) (id : Nat) : (lib.rules id).2.Sound := by
  obtain ⟨hs, hnested, hmembers⟩ := lib.rules_snd id
  refine h.of_sameGrammars hs ?_ (hnested ▸ h.keptNested)
  intro m' hm' found hfound
  obtain ⟨j, hj⟩ := List.mem_iff_getElem?.1 hm'
  obtain ⟨m, hm, hcase⟩ := hmembers j m' hj
  rcases hcase with heq | ⟨-, -, rules, hrules, hanswer⟩
  · exact h.kept m (List.mem_of_getElem? hm) found (heq ▸ hfound)
  · obtain rfl : rules = found := Option.some.inj (hrules.symm.trans hfound)
    exact h.knows_of_rules hanswer

/-- So does looking for those of one of its regions. -/
theorem nestedRules (h : lib.Sound) {e : RegionEntry} (he : e ∈ lib.regions) :
    (lib.nestedRules e.1 e.2).2.Sound := by
  obtain ⟨hs, hmembers, hnested⟩ := lib.nestedRules_snd e.1 e.2
  refine h.of_sameGrammars hs (hmembers ▸ h.kept) ?_
  rcases hnested with heq | ⟨rules, hrules, heq⟩
  · exact heq ▸ h.keptNested
  · intro entry hentry
    rw [heq, List.mem_cons] at hentry
    rcases hentry with rfl | hentry
    · exact h.knows_of_nestedRules he hrules
    · exact h.keptNested entry hentry

end Sound

/-! ## Registering -/

/-- Registering puts a grammar behind the others and lets its scope name stand for it. -/
theorem register_fst (lib : Library) (g : Grammar) :
    (lib.register g).1 =
      { lib with
        members := lib.members ++ [{ grammar := g.place lib.members.length }]
        names := (g.scopeName.text, lib.members.length)
          :: lib.names.filter fun entry => entry.1 ≠ g.scopeName.text } := by
  have hg : (lib.add g).1.grammar? lib.members.length = some (g.place lib.members.length) := by
    simp [add, grammar?]
  simp only [register, enroll]
  rw [show (lib.add g).2 = lib.members.length from rfl, hg]
  rfl

/-- A grammar is registered behind all others. -/
theorem members_register (lib : Library) (g : Grammar) :
    (lib.register g).1.members = lib.members ++ [{ grammar := g.place lib.members.length }] := by
  rw [register_fst]

/-- Its scope name stands for it from then on, and for no other one. -/
theorem names_register (lib : Library) (g : Grammar) :
    (lib.register g).1.names = (g.scopeName.text, lib.members.length)
      :: lib.names.filter fun entry => entry.1 ≠ g.scopeName.text := by
  rw [register_fst]

/-- Registering keeps what was found for regions. -/
theorem nested_register (lib : Library) (g : Grammar) :
    (lib.register g).1.nested = lib.nested := by
  rw [register_fst]

/-- No region is lost. -/
theorem regions_register (lib : Library) (g : Grammar) :
    lib.regions ⊆ (lib.register g).1.regions := by
  unfold regions
  rw [members_register, List.flatMap_append]
  exact List.subset_append_left _ _

/-- The name of a registered grammar stands for it. -/
theorem find?_register_self (lib : Library) (g : Grammar) :
    (lib.register g).1.find? g.scopeName.text = some (g.place lib.members.length) := by
  unfold find? id? grammar?
  rw [names_register, members_register]
  simp

/-- Other names stand for what they did. -/
theorem id?_register_of_ne (lib : Library) (g : Grammar) {scope : String}
    (hne : scope ≠ g.scopeName.text) : (lib.register g).1.id? scope = lib.id? scope := by
  have hbeq : (scope == g.scopeName.text) = false := by simpa using hne
  unfold id?
  rw [names_register, List.lookup_cons, hbeq]
  exact lookup_filter_ne hne lib.names

/-- A scope name goes on standing for what it stood for, unless it is the new grammar's. -/
theorem find?_register_of_ne (lib : Library) (g : Grammar) {scope : String} {old : Grammar}
    (hne : scope ≠ g.scopeName.text) (h : lib.find? scope = some old) :
    (lib.register g).1.find? scope = some old := by
  unfold find? at h ⊢
  obtain ⟨id, hid, hold⟩ := Option.bind_eq_some_iff.1 h
  obtain ⟨m, hm, hg⟩ := Option.map_eq_some_iff.1 hold
  have hlt := (List.getElem?_eq_some_iff.1 hm).1
  rw [id?_register_of_ne lib g hne, hid, Option.bind_some, grammar?, members_register,
    List.getElem?_append_left hlt, hm, Option.map_some, hg]

/-- Registering keeps a library sound. -/
theorem Sound.register {lib : Library} (h : lib.Sound) (g : Grammar) : (lib.register g).1.Sound where
  placed := by
    intro i m hm
    rw [members_register] at hm
    rcases Nat.lt_or_ge i lib.members.length with hlt | hge
    · rw [List.getElem?_append_left hlt] at hm
      exact h.placed i m hm
    · rw [List.getElem?_append_right hge] at hm
      obtain ⟨hi, rfl⟩ := List.getElem?_eq_some_iff.1 hm
      have : i = lib.members.length := by simp at hi; omega
      subst this
      exact ⟨g, by simp⟩
  enrolled := by
    intro m hm
    rw [members_register, List.mem_append, List.mem_singleton] at hm
    rcases hm with hm | rfl
    · obtain ⟨old, hold⟩ := Option.isSome_iff_exists.1 (h.enrolled m hm)
      by_cases hscope : m.grammar.scopeName.text = g.scopeName.text
      · rw [hscope, find?_register_self]
        rfl
      · rw [find?_register_of_ne lib g hscope hold]
        rfl
    · rw [Grammar.scopeName_place, find?_register_self]
      rfl
  kept := by
    intro m hm rules hrules rule hrule
    rw [members_register, List.mem_append, List.mem_singleton] at hm
    rcases hm with hm | rfl
    · exact (h.kept m hm rules hrules rule hrule).mono (regions_register lib g)
    · exact absurd hrules (by simp)
  keptNested := by
    intro entry hentry rule hrule
    rw [nested_register] at hentry
    exact (h.keptNested entry hentry rule hrule).mono (regions_register lib g)

/-! ## Libraries that give the same answers -/

/-- Libraries with the same grammars that give the same rules for each grammar and each of their
regions. -/
structure Agrees (a b : Library) : Prop extends SameGrammars a b where
  rules : ∀ id, (a.rules id).1 = (b.rules id).1
  nested : ∀ e ∈ a.regions, (a.nestedRules e.1 e.2).1 = (b.nestedRules e.1 e.2).1

namespace Agrees

variable {a b c : Library}

/-- A library agrees with itself. -/
theorem refl (a : Library) : Agrees a a := ⟨.refl a, fun _ => rfl, fun _ _ => rfl⟩

/-- Agreeing does not depend on the order. -/
theorem symm (h : Agrees a b) : Agrees b a :=
  ⟨h.toSameGrammars.symm, fun id => (h.rules id).symm,
    fun e he => (h.nested e (h.regions_eq ▸ he)).symm⟩

/-- Agreeing carries over. -/
theorem trans (h : Agrees a b) (h' : Agrees b c) : Agrees a c :=
  ⟨h.toSameGrammars.trans h'.toSameGrammars, fun id => (h.rules id).trans (h'.rules id),
    fun e he => (h.nested e he).trans (h'.nested e (h.regions_eq ▸ he))⟩

end Agrees

/-- Libraries agree if what they keep is what they would answer anyway. -/
theorem SameGrammars.agrees {a b : Library} (hs : SameGrammars a b)
    (hmembers : ∀ id m m', a.members[id]? = some m → b.members[id]? = some m' →
      m'.rules = m.rules ∨
        m.rules = none ∧ ∃ rules, m'.rules = some rules ∧ (a.rules id).1 = .ok rules)
    (hnested : ∀ e ∈ a.regions, b.nested.lookup e.1.place = a.nested.lookup e.1.place ∨
      ∃ rules, b.nested.lookup e.1.place = some rules ∧
        (a.nestedRules e.1 e.2).1 = .ok rules) : Agrees a b where
  toSameGrammars := hs
  rules := by
    intro id
    cases hm : a.members[id]? with
    | none =>
      have hm' : b.members[id]? = none := by
        cases hb : b.members[id]? with
        | none => rfl
        | some m' =>
          obtain ⟨m, hm', -⟩ := hs.symm.member hb
          rw [hm] at hm'
          exact absurd hm' (by simp)
      rw [rules_fst, rules_fst, hm, hm']
    | some m =>
      obtain ⟨m', hm', hg⟩ := hs.member hm
      rcases hmembers id m m' hm hm' with heq | ⟨hnone, rules, hrules, hanswer⟩
      · rw [rules_fst, rules_fst, hm, hm']
        dsimp only
        rw [hs.isRegistered_eq, heq, hg, hs.resolve_eq]
      · have hreg : a.isRegistered id = true := by
          rw [rules_fst, hm] at hanswer
          dsimp only at hanswer
          by_contra hnot
          rw [if_neg hnot] at hanswer
          exact absurd hanswer (by simp)
        rw [hanswer, rules_fst, hm']
        dsimp only
        rw [if_pos (hs.isRegistered_eq ▸ hreg), hrules]
  nested := by
    intro e he
    rcases hnested e he with heq | ⟨rules, hrules, hanswer⟩
    · rw [nestedRules_fst, nestedRules_fst, heq, hs.find?_eq]
      cases a.nested.lookup e.1.place with
      | some rules => rfl
      | none =>
        dsimp only
        cases b.find? e.1.grammar.text with
        | none => rfl
        | some g => exact hs.resolve_eq g e.2
    · rw [hanswer, nestedRules_fst, hrules]

/-- A library agrees with itself once warnings are noted. -/
theorem agrees_warn (lib : Library) (warnings : List Warning) : Agrees lib (lib.warn warnings) := by
  refine (sameGrammars_warn lib warnings).agrees ?_ fun e _ => Or.inl rfl
  intro id m m' hm hm'
  exact Or.inl (congrArg Member.rules (Option.some.inj (hm.symm.trans hm')).symm)

/-- It agrees with itself once it was asked for the rules of a grammar. -/
theorem agrees_rules (lib : Library) (id : Nat) : Agrees lib (lib.rules id).2 := by
  obtain ⟨hs, hnested, hmembers⟩ := lib.rules_snd id
  refine hs.agrees ?_ fun e _ => Or.inl (by rw [hnested])
  intro j m m' hm hm'
  obtain ⟨old, hold, hcase⟩ := hmembers j m' hm'
  obtain rfl : old = m := Option.some.inj (hold.symm.trans hm)
  rcases hcase with heq | ⟨rfl, hnone, rules, hrules, hanswer⟩
  · exact Or.inl heq
  · exact Or.inr ⟨hnone, rules, hrules, hanswer⟩

/-- What is kept for a region is found again under its place only by that region. -/
theorem agrees_nestedRules {lib : Library} (h : lib.Placed) {e : RegionEntry}
    (he : e ∈ lib.regions) : Agrees lib (lib.nestedRules e.1 e.2).2 := by
  obtain ⟨hs, hmembers, hnested⟩ := lib.nestedRules_snd e.1 e.2
  refine hs.agrees ?_ ?_
  · intro id m m' hm hm'
    rw [hmembers, hm] at hm'
    exact Or.inl (congrArg Member.rules (Option.some.inj hm').symm)
  · intro e' he'
    rcases hnested with heq | ⟨rules, hrules, heq⟩
    · exact Or.inl (by rw [heq])
    · -- What is kept is found by its place only, which has to be that of this very region.
      by_cases hplace : e'.1.place = e.1.place
      · obtain rfl := h.unique he' he hplace
        exact Or.inr ⟨rules, by rw [heq, List.lookup_cons_self], hrules⟩
      · have hbeq : (e'.1.place == e.1.place) = false := by simpa using hplace
        exact Or.inl (by rw [heq, List.lookup_cons, hbeq])

/-! ## Any number of questions -/

/-- What becomes of a library while it is asked for the rules of grammars and of its regions, and
warnings are written down. -/
inductive Queried : Library → Library → Prop
  | refl (lib : Library) : Queried lib lib
  | rules {a b : Library} (id : Nat) (h : Queried a b) : Queried a (b.rules id).2
  | nestedRules {a b : Library} {e : RegionEntry} (he : e ∈ b.regions) (h : Queried a b) :
      Queried a (b.nestedRules e.1 e.2).2
  | warn {a b : Library} (warnings : List Warning) (h : Queried a b) : Queried a (b.warn warnings)

/-- What becomes of a library by asking in two parts becomes of it as a whole. -/
theorem Queried.trans {a b c : Library} (h : Queried a b) (h' : Queried b c) : Queried a c := by
  induction h' with
  | refl => exact h
  | rules id _ ih => exact .rules id ih
  | nestedRules he _ ih => exact .nestedRules he ih
  | warn warnings _ ih => exact .warn warnings ih

/-- Asking keeps a library sound. -/
theorem Queried.sound {a b : Library} (h : Queried a b) (ha : a.Sound) : b.Sound := by
  induction h with
  | refl => exact ha
  | rules id _ ih => exact ih.rules id
  | nestedRules he _ ih => exact ih.nestedRules he
  | warn warnings _ ih => exact ih.warn warnings

/-- **Asking changes no answer.** -/
theorem Queried.agrees {a b : Library} (h : Queried a b) (ha : a.Sound) : Agrees a b := by
  induction h with
  | refl => exact .refl a
  | rules id _ ih => exact ih.trans (agrees_rules _ id)
  | nestedRules he hq ih => exact ih.trans (agrees_nestedRules (hq.sound ha).placed he)
  | warn warnings _ ih => exact ih.trans (agrees_warn _ warnings)

/-- The libraries that come of registering grammars and asking for rules, in any order. -/
inductive Built : Library → Prop
  | empty (options : LibraryOptions) : Built (.empty options)
  | register {lib : Library} (g : Grammar) (h : Built lib) : Built (lib.register g).1
  | queried {a b : Library} (hq : Queried a b) (h : Built a) : Built b

/-- **Every library that is built is sound.** -/
theorem Built.sound {lib : Library} (h : lib.Built) : lib.Sound := by
  induction h with
  | empty options => exact .empty options
  | register g _ ih => exact ih.register g
  | queried hq _ ih => exact hq.sound ih

end Library

end ScopePaint
