import ScopePaint.Grammar.Record
import ScopePaint.Proofs.Library.Queries
import ScopePaint.Proofs.Outcome

/-!
# Libraries of loaded grammars

The regions of a grammar that was loaded name the scope of that grammar
(`GrammarRecord.standIn_compile`). So in a library of loaded grammars the grammar of each region is
there when its patterns are looked for, and nothing but a wrong grammar can keep its rules from being
found (`Library.Loaded.nestedRules_error`).
-/

set_option autoImplicit false

namespace ScopePaint

/-! ## What loading writes into regions -/

/-- Regions that name a scope as that of the grammar they stand in. -/
def StandIn (grammar : String) (entries : List RegionEntry) : Prop :=
  ∀ e ∈ entries, e.1.grammar = ⟨grammar⟩

namespace StandIn

variable {grammar : String} {xs ys : List RegionEntry}

/-- Where there are no regions, all of them stand in the grammar. -/
theorem nil : StandIn grammar [] := fun _ h => absurd h (by simp)

/-- Regions of two parts stand in the grammar if those of each part do. -/
theorem append (hx : StandIn grammar xs) (hy : StandIn grammar ys) : StandIn grammar (xs ++ ys) :=
  fun e he => (List.mem_append.1 he).elim (hx e) (hy e)

/-- So does a region in front of others. -/
theorem cons {r : Region} {ps : List Pattern} (hr : r.grammar = ⟨grammar⟩)
    (hx : StandIn grammar xs) : StandIn grammar ((r, ps) :: xs) :=
  fun e he => (List.mem_cons.1 he).elim (fun heq => heq ▸ hr) (hx e)

end StandIn

mutual

/-- The regions of a pattern that was loaded stand in the grammar it was loaded for. -/
theorem PatternRecord.standIn_compile (grammar : String) (r : PatternRecord) {p : Pattern}
    (h : r.compile grammar = .ok p) : StandIn grammar p.regions := by
  match r with
  | ⟨_, _, _, _, _, some text, _, _, _, _⟩ =>
    unfold PatternRecord.compile at h
    obtain rfl := Except.ok.inj h
    exact .nil
  | ⟨_, _, some source, _, _, none, _, _, _, _⟩ =>
    unfold PatternRecord.compile at h
    obtain ⟨regex, -, h⟩ := bind_eq_ok_iff.1 h
    obtain rfl := Except.ok.inj h
    exact .nil
  | ⟨_, _, none, some source, none, none, _, _, _, _⟩ =>
    unfold PatternRecord.compile at h
    exact absurd h (by simp)
  | ⟨_, _, none, some source, some stopSource, none, _, _, _, none⟩ =>
    unfold PatternRecord.compile at h
    obtain ⟨nested, hnested, h⟩ := bind_eq_ok_iff.1 h
    obtain ⟨start, -, h⟩ := bind_eq_ok_iff.1 h
    obtain ⟨stop, -, h⟩ := bind_eq_ok_iff.1 h
    obtain rfl := Except.ok.inj h
    obtain rfl := Except.ok.inj hnested
    exact .cons rfl .nil
  | ⟨_, _, none, some source, some stopSource, none, _, _, _, some records⟩ =>
    unfold PatternRecord.compile at h
    obtain ⟨nested, hnested, h⟩ := bind_eq_ok_iff.1 h
    obtain ⟨start, -, h⟩ := bind_eq_ok_iff.1 h
    obtain ⟨stop, -, h⟩ := bind_eq_ok_iff.1 h
    obtain rfl := Except.ok.inj h
    exact .cons rfl (standIn_compileAll grammar records hnested)
  | ⟨_, _, none, none, _, none, _, _, _, some records⟩ =>
    unfold PatternRecord.compile at h
    obtain ⟨ps, hps, h⟩ := bind_eq_ok_iff.1 h
    obtain rfl := Except.ok.inj h
    exact standIn_compileAll grammar records hps
  | ⟨_, _, none, none, _, none, _, _, _, none⟩ =>
    unfold PatternRecord.compile at h
    exact absurd h (by simp)

/-- The same for some patterns. -/
theorem standIn_compileAll (grammar : String) (rs : List PatternRecord) {ps : List Pattern}
    (h : compileAll grammar rs = .ok ps) : StandIn grammar (Pattern.regionsAll ps) := by
  match rs with
  | [] =>
    unfold compileAll at h
    obtain rfl := Except.ok.inj h
    exact .nil
  | r :: rest =>
    unfold compileAll at h
    obtain ⟨p, hp, h⟩ := bind_eq_ok_iff.1 h
    obtain ⟨ps', hps, h⟩ := bind_eq_ok_iff.1 h
    obtain rfl := Except.ok.inj h
    exact (r.standIn_compile grammar hp).append (standIn_compileAll grammar rest hps)

end

/-- The same for named patterns. -/
theorem standIn_compileNamed (grammar : String) (rs : List (String × PatternRecord))
    {named : List (String × Pattern)} (h : compileNamed grammar rs = .ok named) :
    StandIn grammar (Pattern.regionsNamed named) := by
  induction rs generalizing named with
  | nil =>
    obtain rfl := Except.ok.inj h
    exact .nil
  | cons entry rest ih =>
    unfold compileNamed at h
    obtain ⟨p, hp, h⟩ := bind_eq_ok_iff.1 h
    obtain ⟨named', hnamed, h⟩ := bind_eq_ok_iff.1 h
    obtain rfl := Except.ok.inj h
    exact (entry.2.standIn_compile grammar hp).append (ih hnamed)

/-- **The regions of a loaded grammar stand in that grammar.** -/
theorem GrammarRecord.standIn_compile {r : GrammarRecord} {g : Grammar} (h : r.compile = .ok g) :
    StandIn g.scopeName.text g.regions := by
  unfold GrammarRecord.compile at h
  obtain ⟨patterns, hpatterns, h⟩ := bind_eq_ok_iff.1 h
  obtain ⟨repository, hrepository, h⟩ := bind_eq_ok_iff.1 h
  obtain ⟨foldingStart, -, h⟩ := bind_eq_ok_iff.1 h
  obtain ⟨foldingStop, -, h⟩ := bind_eq_ok_iff.1 h
  obtain ⟨firstLine, -, h⟩ := bind_eq_ok_iff.1 h
  obtain rfl := Except.ok.inj h
  exact (standIn_compileAll _ _ hpatterns).append (standIn_compileNamed _ _ hrepository)

/-- Giving regions their places keeps the grammar they stand in. -/
theorem Grammar.standIn_place {g : Grammar} {grammar : String} (h : StandIn grammar g.regions)
    (number : Nat) : StandIn grammar (g.place number).regions := by
  intro e he
  have hmem : e.1.grammar ∈ (g.place number).regions.map fun e => e.1.grammar :=
    List.mem_map_of_mem he
  rw [Grammar.grammars_place] at hmem
  obtain ⟨e', he', heq⟩ := List.mem_map.1 hmem
  rw [← heq]
  exact h e' he'

namespace Library

/-! ## Libraries -/

/-- All grammars of a library were loaded, whatever file they come from. -/
def Loaded (lib : Library) : Prop :=
  ∀ m ∈ lib.members, ∃ (r : GrammarRecord) (g : Grammar) (number : Nat),
    r.compile = .ok g ∧ m.grammar = g.place number

/-- The empty library is loaded. -/
theorem Loaded.empty (options : LibraryOptions) : (Library.empty options).Loaded := by
  intro m hm
  simp [Library.empty] at hm

/-- Registering a compiled grammar keeps a library loaded. -/
theorem Loaded.register {lib : Library} (h : lib.Loaded) {r : GrammarRecord} {g : Grammar}
    (hg : r.compile = .ok g) : (lib.register g).1.Loaded := by
  intro m hm
  rw [members_register, List.mem_append, List.mem_singleton] at hm
  rcases hm with hm | rfl
  · exact h m hm
  · exact ⟨r, g, _, hg, rfl⟩

/-- Libraries with the same grammars are loaded alike. -/
theorem SameGrammars.loaded {a b : Library} (hs : SameGrammars a b) (h : a.Loaded) : b.Loaded := by
  intro m' hm'
  obtain ⟨i, hi⟩ := List.mem_iff_getElem?.1 hm'
  obtain ⟨m, hm, hg⟩ := hs.symm.member hi
  rw [← hg]
  exact h m (List.mem_of_getElem? hm)

/-- The regions of a loaded grammar name its scope. -/
theorem Loaded.grammar_eq {lib : Library} (h : lib.Loaded) {m : Member} (hm : m ∈ lib.members)
    {e : RegionEntry} (he : e ∈ m.grammar.regions) :
    e.1.grammar.text = m.grammar.scopeName.text := by
  obtain ⟨r, g, number, hcompile, hg⟩ := h m hm
  rw [Grammar.standIn_place (GrammarRecord.standIn_compile hcompile) number e (hg ▸ he), hg,
    Grammar.scopeName_place]

/-- The grammar that a region of a loaded grammar stands in is there. -/
theorem Loaded.isSome_find? {lib : Library} (h : lib.Loaded) (hs : lib.Sound) {e : RegionEntry}
    (he : e ∈ lib.regions) : (lib.find? e.1.grammar.text).isSome = true := by
  obtain ⟨m, hm, hem⟩ := List.mem_flatMap.1 he
  rw [h.grammar_eq hm hem]
  exact hs.enrolled m hm

/-- **The rules of a region of a loaded grammar are found** unless a grammar is wrong. -/
theorem Loaded.nestedRules_error {lib : Library} (h : lib.Loaded) (hs : lib.Sound)
    {e : RegionEntry} (he : e ∈ lib.regions) {failure : Failure}
    (hrules : (lib.nestedRules e.1 e.2).1 = .error failure) :
    ∃ cause, failure = .grammar cause := by
  rw [nestedRules_fst] at hrules
  cases hkept : lib.nested.lookup e.1.place with
  | some rules => simp [hkept] at hrules
  | none =>
    obtain ⟨g, hg⟩ := Option.isSome_iff_exists.1 (h.isSome_find? hs he)
    simp only [hkept, hg] at hrules
    exact resolve_error hrules

end Library

/-! ## Nested brackets -/

/-- A grammar file with one region, between brackets, in which the whole grammar applies again. -/
def bracketRecord : GrammarRecord where
  scopeName := "source.brackets"
  patterns := [
    { name := some "meta.brackets", beginSource := some "\\[", endSource := some "\\]",
      patterns := some [{ includeText := some "$self" }] }]

/-- The grammar in that file. -/
def bracketGrammar : Grammar := bracketRecord.compile.toOption.getD { scopeName := ⟨""⟩ }

/-- A grammar that can be compiled is its result. -/
theorem GrammarRecord.compile_of_isOk {r : GrammarRecord} (h : r.compile.isOk = true) :
    r.compile = .ok (r.compile.toOption.getD { scopeName := ⟨""⟩ }) :=
  eq_ok_getD_of_isOk h _

/-- The grammar of brackets is compiled from its record. -/
theorem compile_bracketRecord : bracketRecord.compile = .ok bracketGrammar :=
  GrammarRecord.compile_of_isOk (by decide +kernel)

/-- A library with that grammar. -/
def bracketLibrary : Library := ((Library.empty {}).register bracketGrammar).1

/-- The library of brackets is built by registering its grammar. -/
theorem built_bracketLibrary : bracketLibrary.Built := .register _ (.empty _)

/-- It is loaded. -/
theorem loaded_bracketLibrary : bracketLibrary.Loaded :=
  (Library.Loaded.empty {}).register compile_bracketRecord

end ScopePaint
