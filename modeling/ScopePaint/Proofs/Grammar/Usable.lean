import Mathlib.Data.List.Forall2
import ScopePaint.Grammar.Record
import ScopePaint.Proofs.Outcome

/-!
# Which grammars can be loaded

A pattern record is usable if what it is needed for is there and compiles: the first one of its
fields `include`, `match` and `begin` says what it is, and what the other fields hold beside that is
not looked at (`PatternRecord.IsUsable`). A grammar is loaded if and only if each of its patterns is
usable, at any depth, and so are its other regular expressions. What is loaded is then the tree of
the records again, node by node and in the same order (`GrammarRecord.loaded_iff_usable`).

All of this is read off one statement about a single record, which says for each kind of pattern when
it compiles and what it becomes (`PatternRecord.compile_eq_ok_iff`). The records inside of it are
compiled one by one (`compileAll_eq_ok_iff`), so that an induction over the depth of records
(`PatternRecord.induction`) does the rest.
-/

set_option autoImplicit false

namespace ScopePaint

/-! ## Records -/

/-- A regular expression that can be compiled. -/
def Compiles (source : String) : Prop := ∃ regex, Regex.compile source = .ok regex

/-- The source of an end that refers to its begin: somewhere a backslash stands in front of a digit
from 1 to 9. -/
def RefersBack (source : String) : Prop :=
  ∃ front digit rest, source.toList = front ++ '\\' :: digit :: rest ∧ '1' ≤ digit ∧ digit ≤ '9'

namespace PatternRecord

/-- A record that can be used as a pattern: a reference, or else a match that compiles, or else a
region whose begin compiles, whose end refers to its begin or compiles, and whose patterns can be
used, or else a group of patterns that can be used. -/
inductive IsUsable : PatternRecord → Prop
  | reference {r : PatternRecord} {text : String} (hinclude : r.includeText = some text) : IsUsable r
  | single {r : PatternRecord} {source : String} (hinclude : r.includeText = none)
      (hmatch : r.matchSource = some source) (hsource : Compiles source) : IsUsable r
  | region {r : PatternRecord} {start stop : String} (hinclude : r.includeText = none)
      (hmatch : r.matchSource = none) (hbegin : r.beginSource = some start)
      (hend : r.endSource = some stop) (hstart : Compiles start)
      (hstop : RefersBack stop ∨ Compiles stop)
      (hnested : ∀ inner ∈ r.patterns.getD [], IsUsable inner) : IsUsable r
  | group {r : PatternRecord} {records : List PatternRecord} (hinclude : r.includeText = none)
      (hmatch : r.matchSource = none) (hbegin : r.beginSource = none)
      (hpatterns : r.patterns = some records) (hrecords : ∀ inner ∈ records, IsUsable inner) :
      IsUsable r

/-- A pattern that has the shape of a record: it is of the kind that the record says, with its scopes
and its regular expressions, and its own patterns have the shapes of those in the record, one by one
and in order. -/
inductive HasShape (grammar : String) : PatternRecord → Pattern → Prop
  | reference {r : PatternRecord} {text : String} (hinclude : r.includeText = some text) :
      HasShape grammar r (.reference (.ofText text))
  | single {r : PatternRecord} {source : String} {rule : MatchRule} (hinclude : r.includeText = none)
      (hmatch : r.matchSource = some source) (hsource : Regex.compile source = .ok rule.regex)
      (hscope : rule.scope.map (·.text) = r.name) : HasShape grammar r (.single rule)
  | region {r : PatternRecord} {start stop : String} {region : Region} {nested : List Pattern}
      (hinclude : r.includeText = none) (hmatch : r.matchSource = none)
      (hbegin : r.beginSource = some start) (hend : r.endSource = some stop)
      (hstart : Regex.compile start = .ok region.start)
      (hstop : RefersBack stop ∧ region.stop = .backReferencing stop ∨
        ¬ RefersBack stop ∧ ∃ regex, Regex.compile stop = .ok regex ∧ region.stop = .fixed regex)
      (hgrammar : region.grammar.text = grammar) (hscope : region.scope.map (·.text) = r.name)
      (hcontent : region.content.map (·.text) = r.contentName)
      (hnested : List.Forall₂ (HasShape grammar) (r.patterns.getD []) nested) :
      HasShape grammar r (.region region nested)
  | group {r : PatternRecord} {records : List PatternRecord} {patterns : List Pattern}
      (hinclude : r.includeText = none) (hmatch : r.matchSource = none)
      (hbegin : r.beginSource = none) (hpatterns : r.patterns = some records)
      (hrecords : List.Forall₂ (HasShape grammar) records patterns) :
      HasShape grammar r (.group patterns)

/-- What holds of a record if it holds of all records directly inside of it holds of all records. -/
theorem induction {motive : PatternRecord → Prop}
    (step : ∀ r, (∀ inner ∈ r.patterns.getD [], motive inner) → motive r) (r : PatternRecord) :
    motive r :=
  step r fun inner _hinner => induction step inner
termination_by sizeOf r
decreasing_by
  obtain ⟨name, contentName, matchSource, beginSource, endSource, includeText, captures,
    beginCaptures, endCaptures, patterns⟩ := r
  cases patterns with
  | none => exact absurd _hinner List.not_mem_nil
  | some records =>
    have hlt : sizeOf inner < sizeOf records := List.sizeOf_lt_of_mem _hinner
    simp only [mk.sizeOf_spec, Option.some.sizeOf_spec]
    omega

end PatternRecord

namespace GrammarRecord

/-- A record that can be used as a grammar. -/
structure IsUsable (r : GrammarRecord) : Prop where
  patterns : ∀ p ∈ r.patterns, p.IsUsable
  repository : ∀ entry ∈ r.repository, entry.2.IsUsable
  foldingStart : ∀ source ∈ r.foldingStartMarker, Compiles source
  foldingStop : ∀ source ∈ r.foldingStopMarker, Compiles source
  firstLine : ∀ source ∈ r.firstLineMatch, Compiles source

/-- A grammar that has the shape of a record: its patterns have the shapes of those in the record,
in the same order and under the same names. -/
structure HasShape (r : GrammarRecord) (g : Grammar) : Prop where
  scopeName : g.scopeName.text = r.scopeName
  name : g.name = r.name
  fileTypes : g.fileTypes = r.fileTypes
  patterns : List.Forall₂ (PatternRecord.HasShape r.scopeName) r.patterns g.patterns
  repository : List.Forall₂ (fun entry named => named.1 = entry.1 ∧
    PatternRecord.HasShape r.scopeName entry.2 named.2) r.repository g.repository
  foldingStart : Option.Rel (fun source regex => Regex.compile source = .ok regex)
    r.foldingStartMarker g.foldingStart
  foldingStop : Option.Rel (fun source regex => Regex.compile source = .ok regex)
    r.foldingStopMarker g.foldingStop
  firstLine : Option.Rel (fun source regex => Regex.compile source = .ok regex)
    r.firstLineMatch g.firstLine

end GrammarRecord

/-! ## Regular expressions -/

section Sources

variable {grammar source : String} {regex : Regex} {stop : EndPattern}

/-- A regex is compiled just as it is outside of a grammar. -/
theorem compileRegex_eq_ok_iff :
    compileRegex grammar source = .ok regex ↔ Regex.compile source = .ok regex := by
  unfold compileRegex
  cases Regex.compile source <;> simp

/-- A regex that may be absent is compiled if it is given. -/
theorem compileOptional_eq_ok_iff {sources : Option String} {result : Option Regex} :
    compileOptional grammar sources = .ok result ↔
      Option.Rel (fun source regex => Regex.compile source = .ok regex) sources result := by
  cases sources with
  | none =>
    cases result with
    | none => exact iff_of_true rfl .none
    | some regex => exact iff_of_false (by simp [compileOptional]) (fun h => nomatch h)
  | some source =>
    show (compileRegex grammar source).map some = .ok result ↔ _
    cases hregex : compileRegex grammar source with
    | error e =>
      refine iff_of_false (by simp [Except.map]) ?_
      rintro (h | -)
      rw [compileRegex_eq_ok_iff.2 h] at hregex
      exact absurd hregex (by simp)
    | ok regex =>
      have hok := compileRegex_eq_ok_iff.1 hregex
      constructor
      · intro h
        obtain rfl : some regex = result := Except.ok.inj h
        exact .some hok
      · rintro (h | -)
        obtain rfl := Except.ok.inj (hok.symm.trans h)
        rfl

/-- Only the digits from 1 to 9 name a group. -/
theorem groupOf?_isSome_iff {c : Char} :
    (EndPattern.groupOf? c).isSome = true ↔ '1' ≤ c ∧ c ≤ '9' := by
  unfold EndPattern.groupOf?
  split
  · rename_i hdigit
    exact iff_of_true rfl hdigit
  · rename_i hdigit
    exact iff_of_false (by simp) hdigit

/-- **An end is found to refer back** if and only if it does. -/
theorem isBackReferencing_iff {cs : List Char} : EndPattern.isBackReferencing cs = true ↔
    ∃ front digit rest, cs = front ++ '\\' :: digit :: rest ∧ '1' ≤ digit ∧ digit ≤ '9' := by
  fun_induction EndPattern.isBackReferencing cs with
  | case1 => simp
  | case2 c =>
    refine iff_of_false (by simp) ?_
    rintro ⟨front, digit, rest, hcs, -⟩
    have hlength := congrArg List.length hcs
    simp only [List.length_append, List.length_cons, List.length_nil] at hlength
    omega
  | case3 c d rest ih =>
    rw [Bool.or_eq_true, Bool.and_eq_true, beq_iff_eq, groupOf?_isSome_iff, ih]
    constructor
    · rintro (⟨rfl, hdigit⟩ | ⟨front, digit, behind, hrest, hdigit⟩)
      · exact ⟨[], d, rest, rfl, hdigit⟩
      · exact ⟨c :: front, digit, behind, by rw [hrest, List.cons_append], hdigit⟩
    · rintro ⟨front, digit, behind, hcs, hdigit⟩
      cases front with
      | nil =>
        obtain ⟨rfl, rfl, -⟩ : c = '\\' ∧ d = digit ∧ rest = behind := by simpa using hcs
        exact Or.inl ⟨rfl, hdigit⟩
      | cons first front =>
        exact Or.inr ⟨front, digit, behind, (List.cons.inj hcs).2, hdigit⟩

/-- The end of a region is kept as it is if it refers back, and compiled if it does not. -/
theorem compileEnd_eq_ok_iff : compileEnd grammar source = .ok stop ↔
    RefersBack source ∧ stop = .backReferencing source ∨
      ¬ RefersBack source ∧ ∃ regex, Regex.compile source = .ok regex ∧ stop = .fixed regex := by
  unfold compileEnd EndPattern.compile
  by_cases hback : EndPattern.isBackReferencing source.toList = true
  · have hrefers : RefersBack source := isBackReferencing_iff.1 hback
    rw [if_pos hback]
    simp [hrefers, eq_comm]
  · have hrefers : ¬ RefersBack source := fun h => hback (isBackReferencing_iff.2 h)
    rw [if_neg hback]
    cases Regex.compile source with
    | error e => simp [hrefers, Except.map]
    | ok regex => simp [hrefers, Except.map, eq_comm]

/-- An end can be compiled if it refers back or if its regex can be. -/
theorem exists_compileEnd_iff (grammar : String) :
    (∃ stop, compileEnd grammar source = .ok stop) ↔ RefersBack source ∨ Compiles source := by
  simp only [compileEnd_eq_ok_iff]
  by_cases hrefers : RefersBack source
  · simp [hrefers]
  · simp [hrefers, Compiles]

end Sources

/-! ## Patterns -/

section Lists

variable {grammar : String}

/-- Patterns are compiled one by one. -/
theorem compileAll_eq_ok_iff {rs : List PatternRecord} {ps : List Pattern} :
    compileAll grammar rs = .ok ps ↔
      List.Forall₂ (fun r p => r.compile grammar = .ok p) rs ps := by
  induction rs generalizing ps with
  | nil =>
    rw [compileAll, List.forall₂_nil_left_iff, Except.ok.injEq]
    exact eq_comm
  | cons r rest ih =>
    rw [compileAll, List.forall₂_cons_left_iff]
    constructor
    · intro h
      obtain ⟨p, hp, h⟩ := bind_eq_ok_iff.1 h
      obtain ⟨others, hothers, h⟩ := bind_eq_ok_iff.1 h
      exact ⟨p, others, hp, ih.1 hothers, (Except.ok.inj h).symm⟩
    · rintro ⟨p, others, hp, hothers, rfl⟩
      exact bind_eq_ok_iff.2 ⟨p, hp, bind_eq_ok_iff.2 ⟨others, ih.2 hothers, rfl⟩⟩

/-- Named patterns are compiled one by one and keep their names. -/
theorem compileNamed_eq_ok_iff {rs : List (String × PatternRecord)} {ps : List (String × Pattern)} :
    compileNamed grammar rs = .ok ps ↔
      List.Forall₂ (fun entry named => named.1 = entry.1 ∧ entry.2.compile grammar = .ok named.2)
        rs ps := by
  induction rs generalizing ps with
  | nil =>
    rw [compileNamed, List.forall₂_nil_left_iff, Except.ok.injEq]
    exact eq_comm
  | cons entry rest ih =>
    obtain ⟨name, r⟩ := entry
    rw [compileNamed, List.forall₂_cons_left_iff]
    constructor
    · intro h
      obtain ⟨p, hp, h⟩ := bind_eq_ok_iff.1 h
      obtain ⟨others, hothers, h⟩ := bind_eq_ok_iff.1 h
      exact ⟨(name, p), others, ⟨rfl, hp⟩, ih.1 hothers, (Except.ok.inj h).symm⟩
    · rintro ⟨⟨_, p⟩, others, ⟨rfl, hp⟩, hothers, rfl⟩
      exact bind_eq_ok_iff.2 ⟨p, hp, bind_eq_ok_iff.2 ⟨others, ih.2 hothers, rfl⟩⟩

/-- Something is related to each element of a list if some list is related to it. -/
theorem exists_forall₂_iff {α β : Type} {R : α → β → Prop} {as : List α} :
    (∃ bs, List.Forall₂ R as bs) ↔ ∀ a ∈ as, ∃ b, R a b := by
  induction as with
  | nil => simp
  | cons a rest ih =>
    rw [List.forall_mem_cons, ← ih]
    constructor
    · rintro ⟨_, hab | ⟨hab, hrest⟩⟩
      exact ⟨⟨_, hab⟩, _, hrest⟩
    · rintro ⟨⟨b, hab⟩, bs, hrest⟩
      exact ⟨b :: bs, .cons hab hrest⟩

/-- What holds of the pairs with elements of a list holds of all pairs. -/
theorem forall₂_imp_of_mem {α β : Type} {R S : α → β → Prop} {as : List α} {bs : List β}
    (h : List.Forall₂ R as bs) (himp : ∀ a ∈ as, ∀ b, R a b → S a b) : List.Forall₂ S as bs :=
  ((List.forall₂_and_left as bs).2 ⟨himp, h⟩).imp fun _ b hab => hab.1 b hab.2

end Lists

namespace PatternRecord

variable {grammar : String} {r : PatternRecord} {p : Pattern}

/-- **What becomes of a record**, by the first of its fields that counts. -/
theorem compile_eq_ok_iff : r.compile grammar = .ok p ↔
    (∃ text, r.includeText = some text ∧ p = .reference (.ofText text)) ∨
    (r.includeText = none ∧ ∃ source regex, r.matchSource = some source ∧
      Regex.compile source = .ok regex ∧
      p = .single ⟨r.name.map ScopeName.mk, regex, compileCaptures r.captures⟩) ∨
    (r.includeText = none ∧ r.matchSource = none ∧
      ∃ start stop nested startRegex stopPattern, r.beginSource = some start ∧
        r.endSource = some stop ∧ compileAll grammar (r.patterns.getD []) = .ok nested ∧
        Regex.compile start = .ok startRegex ∧ compileEnd grammar stop = .ok stopPattern ∧
        p = .region
          { place := ⟨0, 0⟩
            grammar := ⟨grammar⟩
            scope := r.name.map ScopeName.mk
            content := r.contentName.map ScopeName.mk
            start := startRegex
            stop := stopPattern
            startCaptures := compileCaptures (endCapturesOf r.beginCaptures r.captures)
            stopCaptures := compileCaptures (endCapturesOf r.endCaptures r.captures) } nested) ∨
    (r.includeText = none ∧ r.matchSource = none ∧ r.beginSource = none ∧
      ∃ records patterns, r.patterns = some records ∧
        compileAll grammar records = .ok patterns ∧ p = .group patterns) := by
  obtain ⟨name, contentName, matchSource, beginSource, endSource, includeText, captures,
    beginCaptures, endCaptures, patterns⟩ := r
  match includeText, matchSource, beginSource, endSource, patterns with
  | some text, _, _, _, _ => simp [compile, eq_comm]
  | none, some source, _, _, _ =>
    simp only [compile, bind_eq_ok_iff, compileRegex_eq_ok_iff, pure, Except.pure]
    simp [eq_comm]
  | none, none, some start, none, _ => simp [compile]
  | none, none, some start, some stop, none =>
    simp only [compile, bind_eq_ok_iff, compileRegex_eq_ok_iff, pure, Except.pure]
    simp [compileAll, eq_comm]
  | none, none, some start, some stop, some records =>
    simp only [compile, bind_eq_ok_iff, compileRegex_eq_ok_iff, pure, Except.pure]
    simp [eq_comm]
  | none, none, none, _, some records =>
    simp only [compile, bind_eq_ok_iff, pure, Except.pure]
    simp [eq_comm]
  | none, none, none, _, none => simp [compile]

/-- Some patterns compile if and only if each of them does. -/
theorem exists_compileAll_iff {rs : List PatternRecord} :
    (∃ ps, compileAll grammar rs = .ok ps) ↔ ∀ r ∈ rs, ∃ p, r.compile grammar = .ok p := by
  simp only [compileAll_eq_ok_iff]
  exact exists_forall₂_iff

/-- **A record compiles if and only if it is usable.** -/
theorem exists_compile_iff (grammar : String) (r : PatternRecord) :
    (∃ p, r.compile grammar = .ok p) ↔ r.IsUsable := by
  induction r using PatternRecord.induction with
  | step r ih =>
    constructor
    · rintro ⟨p, hp⟩
      rcases compile_eq_ok_iff.1 hp with ⟨text, hinclude, -⟩ |
        ⟨hinclude, source, regex, hmatch, hregex, -⟩ |
        ⟨hinclude, hmatch, start, stop, nested, startRegex, stopPattern, hbegin, hend, hnested,
          hstart, hstop, -⟩ |
        ⟨hinclude, hmatch, hbegin, records, patterns, hpatterns, hrecords, -⟩
      · exact .reference hinclude
      · exact .single hinclude hmatch ⟨regex, hregex⟩
      · have hinner := exists_compileAll_iff.1 ⟨nested, hnested⟩
        exact .region hinclude hmatch hbegin hend ⟨startRegex, hstart⟩
          ((exists_compileEnd_iff grammar).1 ⟨stopPattern, hstop⟩)
          fun inner hmem => (ih inner hmem).1 (hinner inner hmem)
      · have hinner := exists_compileAll_iff.1 ⟨patterns, hrecords⟩
        rw [hpatterns, Option.getD_some] at ih
        exact .group hinclude hmatch hbegin hpatterns
          fun inner hmem => (ih inner hmem).1 (hinner inner hmem)
    · intro h
      simp only [compile_eq_ok_iff]
      cases h with
      | reference hinclude => exact ⟨_, Or.inl ⟨_, hinclude, rfl⟩⟩
      | single hinclude hmatch hsource =>
        obtain ⟨regex, hregex⟩ := hsource
        exact ⟨_, Or.inr (Or.inl ⟨hinclude, _, regex, hmatch, hregex, rfl⟩)⟩
      | region hinclude hmatch hbegin hend hstart hstop hnested =>
        obtain ⟨startRegex, hstart⟩ := hstart
        obtain ⟨stopPattern, hstop⟩ := (exists_compileEnd_iff grammar).2 hstop
        obtain ⟨nested, hnested⟩ :=
          exists_compileAll_iff.2 fun inner hmem => (ih inner hmem).2 (hnested inner hmem)
        exact ⟨_, Or.inr (Or.inr (Or.inl ⟨hinclude, hmatch, _, _, nested, startRegex, stopPattern,
          hbegin, hend, hnested, hstart, hstop, rfl⟩))⟩
      | @group _ records hinclude hmatch hbegin hpatterns hrecords =>
        rw [hpatterns, Option.getD_some] at ih
        obtain ⟨patterns, hcompile⟩ :=
          exists_compileAll_iff.2 fun inner hmem => (ih inner hmem).2 (hrecords inner hmem)
        exact ⟨_, Or.inr (Or.inr (Or.inr ⟨hinclude, hmatch, hbegin, records, patterns, hpatterns,
          hcompile, rfl⟩))⟩

/-- What stands beside an `include` is not looked at, and what stands inside of a region is. -/
example : (compile "source.a" { includeText := some "#b", matchSource := some "(" }).isOk = true ∧
    (compile "source.a" { beginSource := some "(a)", endSource := some "\\1",
                          patterns := some [{ matchSource := some "(" }] }).isOk = false := by
  decide +kernel

/-- The text of a name is what the name was made of. -/
theorem map_text_map_mk (name : Option String) :
    (name.map ScopeName.mk).map (·.text) = name := by
  cases name <;> rfl

/-- **What a record compiles to has its shape.** -/
theorem hasShape_of_compile (h : r.compile grammar = .ok p) : HasShape grammar r p := by
  induction r using PatternRecord.induction generalizing p with
  | step r ih =>
    rcases compile_eq_ok_iff.1 h with ⟨text, hinclude, rfl⟩ |
      ⟨hinclude, source, regex, hmatch, hregex, rfl⟩ |
      ⟨hinclude, hmatch, start, stop, nested, startRegex, stopPattern, hbegin, hend, hnested,
        hstart, hstop, rfl⟩ |
      ⟨hinclude, hmatch, hbegin, records, patterns, hpatterns, hrecords, rfl⟩
    · exact .reference hinclude
    · exact .single hinclude hmatch hregex (map_text_map_mk r.name)
    · have hshapes : List.Forall₂ (HasShape grammar) (r.patterns.getD []) nested :=
        forall₂_imp_of_mem (compileAll_eq_ok_iff.1 hnested) fun inner hmem p hp => ih inner hmem hp
      exact .region hinclude hmatch hbegin hend hstart (compileEnd_eq_ok_iff.1 hstop) rfl
        (map_text_map_mk r.name) (map_text_map_mk r.contentName) hshapes
    · rw [hpatterns, Option.getD_some] at ih
      exact .group hinclude hmatch hbegin hpatterns
        (forall₂_imp_of_mem (compileAll_eq_ok_iff.1 hrecords) fun inner hmem p hp =>
          ih inner hmem hp)

end PatternRecord

/-! ## Grammars -/

/-- A regex that may be absent can be compiled if it is absent or it can be. -/
theorem exists_compileOptional_iff (grammar : String) {sources : Option String} :
    (∃ result, compileOptional grammar sources = .ok result) ↔
      ∀ source ∈ sources, Compiles source := by
  simp only [compileOptional_eq_ok_iff]
  cases sources with
  | none => exact iff_of_true ⟨none, .none⟩ (by simp)
  | some source =>
    constructor
    · rintro ⟨_, h | -⟩ other hother
      obtain rfl := Option.some.inj hother
      exact ⟨_, h⟩
    · intro h
      obtain ⟨regex, hregex⟩ := h source rfl
      exact ⟨some regex, .some hregex⟩

namespace GrammarRecord

variable {r : GrammarRecord} {g : Grammar}

/-- **What becomes of a grammar**: all of it has to compile. -/
theorem compile_eq_ok_iff : r.compile = .ok g ↔
    ∃ patterns repository foldingStart foldingStop firstLine,
      compileAll r.scopeName r.patterns = .ok patterns ∧
      compileNamed r.scopeName r.repository = .ok repository ∧
      compileOptional r.scopeName r.foldingStartMarker = .ok foldingStart ∧
      compileOptional r.scopeName r.foldingStopMarker = .ok foldingStop ∧
      compileOptional r.scopeName r.firstLineMatch = .ok firstLine ∧
      g = { scopeName := ⟨r.scopeName⟩, name := r.name, fileTypes := r.fileTypes, patterns,
            repository, foldingStart, foldingStop, firstLine } := by
  simp only [compile, bind_eq_ok_iff, pure, Except.pure, Except.ok.injEq, exists_and_left,
    eq_comm (a := g)]

/-- Named patterns can be compiled if each of them is usable. -/
theorem exists_compileNamed_iff (grammar : String) {rs : List (String × PatternRecord)} :
    (∃ ps, compileNamed grammar rs = .ok ps) ↔ ∀ entry ∈ rs, entry.2.IsUsable := by
  simp only [compileNamed_eq_ok_iff, exists_forall₂_iff]
  refine forall₂_congr fun entry _ => ?_
  rw [← PatternRecord.exists_compile_iff grammar]
  exact ⟨fun ⟨named, _, h⟩ => ⟨named.2, h⟩, fun ⟨p, h⟩ => ⟨(entry.1, p), rfl, h⟩⟩

/-- A grammar can be compiled if it is usable. -/
theorem exists_compile_iff (r : GrammarRecord) : (∃ g, r.compile = .ok g) ↔ r.IsUsable := by
  constructor
  · rintro ⟨g, hg⟩
    obtain ⟨patterns, repository, foldingStart, foldingStop, firstLine, hpatterns, hrepository,
      hfoldingStart, hfoldingStop, hfirstLine, -⟩ := compile_eq_ok_iff.1 hg
    have hall := PatternRecord.exists_compileAll_iff.1 ⟨patterns, hpatterns⟩
    exact ⟨fun p hp => (PatternRecord.exists_compile_iff r.scopeName p).1 (hall p hp),
      (exists_compileNamed_iff _).1 ⟨repository, hrepository⟩,
      (exists_compileOptional_iff _).1 ⟨foldingStart, hfoldingStart⟩,
      (exists_compileOptional_iff _).1 ⟨foldingStop, hfoldingStop⟩,
      (exists_compileOptional_iff _).1 ⟨firstLine, hfirstLine⟩⟩
  · intro h
    obtain ⟨patterns, hpatterns⟩ := PatternRecord.exists_compileAll_iff.2 fun p hp =>
      (PatternRecord.exists_compile_iff r.scopeName p).2 (h.patterns p hp)
    obtain ⟨repository, hrepository⟩ := (exists_compileNamed_iff r.scopeName).2 h.repository
    obtain ⟨foldingStart, hfoldingStart⟩ :=
      (exists_compileOptional_iff r.scopeName).2 h.foldingStart
    obtain ⟨foldingStop, hfoldingStop⟩ := (exists_compileOptional_iff r.scopeName).2 h.foldingStop
    obtain ⟨firstLine, hfirstLine⟩ := (exists_compileOptional_iff r.scopeName).2 h.firstLine
    exact ⟨_, compile_eq_ok_iff.2 ⟨patterns, repository, foldingStart, foldingStop, firstLine,
      hpatterns, hrepository, hfoldingStart, hfoldingStop, hfirstLine, rfl⟩⟩

/-- A compiled grammar has the shape of what it was compiled from. -/
theorem hasShape_of_compile (h : r.compile = .ok g) : r.HasShape g := by
  obtain ⟨patterns, repository, foldingStart, foldingStop, firstLine, hpatterns, hrepository,
    hfoldingStart, hfoldingStop, hfirstLine, rfl⟩ := compile_eq_ok_iff.1 h
  refine ⟨rfl, rfl, rfl, ?_, ?_, compileOptional_eq_ok_iff.1 hfoldingStart,
    compileOptional_eq_ok_iff.1 hfoldingStop, compileOptional_eq_ok_iff.1 hfirstLine⟩
  · exact (compileAll_eq_ok_iff.1 hpatterns).imp fun _ _ hp => PatternRecord.hasShape_of_compile hp
  · exact (compileNamed_eq_ok_iff.1 hrepository).imp fun _ _ hentry =>
      ⟨hentry.1, PatternRecord.hasShape_of_compile hentry.2⟩

/-- **A grammar is loaded if and only if all of it is usable**: its patterns and named patterns, at
any depth, and its other regular expressions. The grammar that is loaded has the shape of what the
file holds. -/
theorem loaded_iff_usable (r : GrammarRecord) :
    ((∃ g, r.compile = .ok g) ↔ r.IsUsable) ∧ ∀ g, r.compile = .ok g → r.HasShape g :=
  ⟨exists_compile_iff r, fun _ h => hasShape_of_compile h⟩

end GrammarRecord

end ScopePaint
