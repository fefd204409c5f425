import ScopePaint.Proofs.Library.Includes

/-!
# The first include of nothing

An include dangles if it names a grammar that is not registered, or a pattern that its grammar has
no such name for (`Library.dangling?`). `Library.FirstMissing` goes through patterns in their order
and follows each include where it stands, until it meets an include that dangles. It knows nothing
of fuel, and there is only one answer to it (`Library.FirstMissing.unique`). The first error among
what a walk finds is that answer (`Library.firstMissing_findings`), so where an include of nothing is
an error, resolving patterns fails exactly if one is met, and with the error of the first one
(`Library.resolve_error_iff`).
-/

set_option autoImplicit false

namespace ScopePaint

namespace Library

/-! ## Includes that dangle -/

/-- The error of a name that no pattern of a grammar has. -/
def missingEntry? (g : Grammar) (name : String) : Option GrammarError :=
  match g.find? name with
  | some _ => none
  | none => some (.missingPattern g.scopeName.text name)

/-- The error of an include in the grammar `g`, if it names a grammar that is not registered or a
pattern that its grammar does not have. -/
def dangling? (lib : Library) (g : Grammar) : Include → Option GrammarError
  | .self => none
  | .repository name => missingEntry? g name
  | .grammar scope name =>
    match lib.find? scope, name with
    | none, _ => some (.missingGrammar g.scopeName.text scope)
    | some other, some name => missingEntry? other name
    | some _, none => none

section Dangling

variable {lib : Library} {g : Grammar} {target : Include}

/-- Nothing is missing if the name is that of a pattern. -/
theorem missingEntry?_eq_none_iff {name : String} :
    missingEntry? g name = none ↔ ∃ p, g.find? name = some p := by
  unfold missingEntry?
  cases g.find? name <;> simp

/-- **An include either dangles or leads somewhere.** -/
theorem dangling?_eq_none_iff :
    lib.dangling? g target = none ↔ ∃ d, lib.destination? g target = some d := by
  match target with
  | .self => simp [dangling?, destination?]
  | .repository name => simp [dangling?, destination?, missingEntry?_eq_none_iff]
  | .grammar scope none =>
    cases hother : lib.find? scope <;> simp [dangling?, destination?, hother]
  | .grammar scope (some name) =>
    cases hother : lib.find? scope <;>
      simp [dangling?, destination?, hother, missingEntry?_eq_none_iff]

/-- An include with a destination does not dangle. -/
theorem dangling?_of_destination? {d : Destination} (hd : lib.destination? g target = some d) :
    lib.dangling? g target = none :=
  dangling?_eq_none_iff.2 ⟨d, hd⟩

/-- An include without one does. -/
theorem exists_dangling?_of_none (hd : lib.destination? g target = none) :
    ∃ e, lib.dangling? g target = some e := by
  refine Option.ne_none_iff_exists'.1 fun hnone => ?_
  obtain ⟨d, hd'⟩ := dangling?_eq_none_iff.1 hnone
  exact absurd (hd.symm.trans hd') (by simp)

/-- A missing pattern is all that is met where it is included. -/
theorem followEntry_of_missingEntry? (expand : List String → Grammar → List Pattern → List Finding)
    (visiting : List String) {name : String} {e : GrammarError}
    (h : missingEntry? g name = some e) : followEntry expand visiting g name = [.missing e] := by
  unfold missingEntry? at h
  unfold followEntry
  cases hp : g.find? name with
  | some p => rw [hp] at h; exact absurd h (by simp)
  | none =>
    rw [hp] at h
    obtain rfl := Option.some.inj h
    rfl

/-- **Following an include that dangles meets its error**, and nothing else. -/
theorem follow_of_dangling? (expand : List String → Grammar → List Pattern → List Finding)
    (visiting : List String) {e : GrammarError} (h : lib.dangling? g target = some e) :
    lib.follow expand visiting g target = [.missing e] := by
  match target with
  | .self => exact absurd h (by simp [dangling?])
  | .repository name => exact followEntry_of_missingEntry? expand visiting h
  | .grammar scope name =>
    unfold dangling? at h
    unfold follow
    dsimp only at h ⊢
    cases hother : lib.find? scope with
    | none =>
      rw [hother] at h
      obtain rfl := Option.some.inj h
      rfl
    | some other =>
      rw [hother] at h
      cases name with
      | none => exact absurd h (by simp)
      | some name => exact followEntry_of_missingEntry? expand visiting h

end Dangling

/-! ## Going through patterns -/

/-- Going through patterns of the grammar `g` in their order, each group and each include where it
stands, meets this include of nothing first, or none at all. Includes whose keys are on the way are
not followed again. -/
inductive FirstMissing (lib : Library) :
    List String → Grammar → List Pattern → Option GrammarError → Prop
  | nil {visiting : List String} {g : Grammar} : FirstMissing lib visiting g [] none
  | single {visiting : List String} {g : Grammar} {r : MatchRule} {rest : List Pattern}
      {first : Option GrammarError} (h : FirstMissing lib visiting g rest first) :
      FirstMissing lib visiting g (.single r :: rest) first
  | region {visiting : List String} {g : Grammar} {r : Region} {inner rest : List Pattern}
      {first : Option GrammarError} (h : FirstMissing lib visiting g rest first) :
      FirstMissing lib visiting g (.region r inner :: rest) first
  | inGroup {visiting : List String} {g : Grammar} {inner rest : List Pattern} {e : GrammarError}
      (hinner : FirstMissing lib visiting g inner (some e)) :
      FirstMissing lib visiting g (.group inner :: rest) (some e)
  | group {visiting : List String} {g : Grammar} {inner rest : List Pattern}
      {first : Option GrammarError} (hinner : FirstMissing lib visiting g inner none)
      (h : FirstMissing lib visiting g rest first) :
      FirstMissing lib visiting g (.group inner :: rest) first
  | dangling {visiting : List String} {g : Grammar} {target : Include} {rest : List Pattern}
      {e : GrammarError} (hd : lib.dangling? g target = some e) :
      FirstMissing lib visiting g (.reference target :: rest) (some e)
  | cut {visiting : List String} {g : Grammar} {target : Include} {d : Destination}
      {rest : List Pattern} {first : Option GrammarError}
      (hd : lib.destination? g target = some d) (hkey : d.key ∈ visiting)
      (h : FirstMissing lib visiting g rest first) :
      FirstMissing lib visiting g (.reference target :: rest) first
  | inFollow {visiting : List String} {g : Grammar} {target : Include} {d : Destination}
      {rest : List Pattern} {e : GrammarError} (hd : lib.destination? g target = some d)
      (hkey : d.key ∉ visiting)
      (hinner : FirstMissing lib (d.key :: visiting) d.grammar d.patterns (some e)) :
      FirstMissing lib visiting g (.reference target :: rest) (some e)
  | follow {visiting : List String} {g : Grammar} {target : Include} {d : Destination}
      {rest : List Pattern} {first : Option GrammarError}
      (hd : lib.destination? g target = some d) (hkey : d.key ∉ visiting)
      (hinner : FirstMissing lib (d.key :: visiting) d.grammar d.patterns none)
      (h : FirstMissing lib visiting g rest first) :
      FirstMissing lib visiting g (.reference target :: rest) first

namespace FirstMissing

variable {lib : Library} {visiting : List String} {g : Grammar} {ps inner rest : List Pattern}
  {first first' : Option GrammarError}

/-- What is met first in a group is met first, else what is met behind it. -/
theorem group_or (hinner : lib.FirstMissing visiting g inner first)
    (h : lib.FirstMissing visiting g rest first') :
    lib.FirstMissing visiting g (.group inner :: rest) (first.or first') := by
  cases first with
  | some e => exact .inGroup hinner
  | none => exact .group hinner h

/-- The same for what an include leads to. -/
theorem follow_or {target : Include} {d : Destination} (hd : lib.destination? g target = some d)
    (hkey : d.key ∉ visiting)
    (hinner : lib.FirstMissing (d.key :: visiting) d.grammar d.patterns first)
    (h : lib.FirstMissing visiting g rest first') :
    lib.FirstMissing visiting g (.reference target :: rest) (first.or first') := by
  cases first with
  | some e => exact .inFollow hd hkey hinner
  | none => exact .follow hd hkey hinner h

/-- **There is only one answer.** -/
theorem unique (h : lib.FirstMissing visiting g ps first)
    (h' : lib.FirstMissing visiting g ps first') : first = first' := by
  induction h generalizing first' with
  | nil =>
    cases h'
    rfl
  | single _ ih =>
    cases h' with
    | single h' => exact ih h'
  | region _ ih =>
    cases h' with
    | region h' => exact ih h'
  | inGroup _ ih =>
    cases h' with
    | inGroup hinner' => exact ih hinner'
    | group hinner' _ => exact absurd (ih hinner') (by simp)
  | group _ _ ihinner ih =>
    cases h' with
    | inGroup hinner' => exact absurd (ihinner hinner') (by simp)
    | group _ h' => exact ih h'
  | dangling hd =>
    cases h' with
    | dangling hd' => exact hd.symm.trans hd'
    | cut hd' => exact absurd (hd.symm.trans (dangling?_of_destination? hd')) (by simp)
    | inFollow hd' => exact absurd (hd.symm.trans (dangling?_of_destination? hd')) (by simp)
    | follow hd' => exact absurd (hd.symm.trans (dangling?_of_destination? hd')) (by simp)
  | cut hd hkey _ ih =>
    cases h' with
    | dangling hd' => exact absurd ((dangling?_of_destination? hd).symm.trans hd') (by simp)
    | cut _ _ h' => exact ih h'
    | inFollow hd' hkey' _ => exact absurd (Option.some.inj (hd.symm.trans hd') ▸ hkey) hkey'
    | follow hd' hkey' _ _ => exact absurd (Option.some.inj (hd.symm.trans hd') ▸ hkey) hkey'
  | inFollow hd hkey _ ih =>
    cases h' with
    | dangling hd' => exact absurd ((dangling?_of_destination? hd).symm.trans hd') (by simp)
    | cut hd' hkey' _ => exact absurd hkey' (Option.some.inj (hd.symm.trans hd') ▸ hkey)
    | inFollow hd' _ hinner' =>
      obtain rfl := Option.some.inj (hd.symm.trans hd')
      exact ih hinner'
    | follow hd' _ hinner' _ =>
      obtain rfl := Option.some.inj (hd.symm.trans hd')
      exact absurd (ih hinner') (by simp)
  | follow hd hkey _ _ ihinner ih =>
    cases h' with
    | dangling hd' => exact absurd ((dangling?_of_destination? hd).symm.trans hd') (by simp)
    | cut hd' hkey' _ => exact absurd hkey' (Option.some.inj (hd.symm.trans hd') ▸ hkey)
    | inFollow hd' _ hinner' =>
      obtain rfl := Option.some.inj (hd.symm.trans hd')
      exact absurd (ihinner hinner') (by simp)
    | follow _ _ _ h' => exact ih h'

end FirstMissing

/-! ## What a walk meets first -/

section Walk

variable {lib : Library} {visiting : List String} {g : Grammar}
  {expand : List String → Grammar → List Pattern → List Finding}

mutual

/-- A pattern is gone through before the others, if what its includes lead to is. -/
theorem firstMissing_walk (hn : lib.Named)
    (hexpand : ∀ target d, lib.destination? g target = some d → d.key ∉ visiting →
      lib.FirstMissing (d.key :: visiting) d.grammar d.patterns
        ((expand (d.key :: visiting) d.grammar d.patterns).findSome? Finding.missing?))
    (p : Pattern) {rest : List Pattern} {first : Option GrammarError}
    (h : lib.FirstMissing visiting g rest first) :
    lib.FirstMissing visiting g (p :: rest)
      (((p.walk (lib.follow expand visiting g)).findSome? Finding.missing?).or first) := by
  match p with
  | .single r => exact .single h
  | .region r inner => exact .region h
  | .group inner => exact .group_or (firstMissing_walkAll hn hexpand inner) h
  | .reference target =>
    rw [Pattern.walk]
    cases hd : lib.destination? g target with
    | none =>
      obtain ⟨e, hdangling⟩ := exists_dangling?_of_none hd
      rw [follow_of_dangling? expand visiting hdangling]
      exact .dangling hdangling
    | some d =>
      obtain ⟨warning, hfollow⟩ := follow_of_some expand visiting hn hd
      rw [hfollow]
      by_cases hkey : d.key ∈ visiting
      · rw [if_pos (List.contains_iff_mem.2 hkey)]
        exact .cut hd hkey h
      · rw [if_neg (mt List.contains_iff_mem.1 hkey)]
        exact .follow_or hd hkey (hexpand target d hd hkey) h

/-- Patterns are gone through if what their includes lead to is. -/
theorem firstMissing_walkAll (hn : lib.Named)
    (hexpand : ∀ target d, lib.destination? g target = some d → d.key ∉ visiting →
      lib.FirstMissing (d.key :: visiting) d.grammar d.patterns
        ((expand (d.key :: visiting) d.grammar d.patterns).findSome? Finding.missing?))
    (ps : List Pattern) :
    lib.FirstMissing visiting g ps
      ((Pattern.walkAll (lib.follow expand visiting g) ps).findSome? Finding.missing?) := by
  match ps with
  | [] => exact .nil
  | p :: rest =>
    rw [Pattern.walkAll, List.findSome?_append]
    exact firstMissing_walk hn hexpand p (firstMissing_walkAll hn hexpand rest)

end

/-- **The first error among what a walk finds** is that of the include of nothing that is met
first. -/
theorem firstMissing_findings (hn : lib.Named) (hg : lib.Stands g) (ps : List Pattern) :
    lib.FirstMissing [] g ps ((lib.findings g ps).findSome? Finding.missing?) :=
  findings_induction
    (P := fun visiting g ps findings =>
      lib.FirstMissing visiting g ps (findings.findSome? Finding.missing?))
    hn (fun _ _ _ ps hexpand => firstMissing_walkAll hn hexpand ps) hg ps

/-- **Where an include of nothing is an error, resolving fails exactly if one is met**, and with the
error of the first one. -/
theorem resolve_error_iff (hn : lib.Named) (hg : lib.Stands g)
    (herror : lib.options.missing = .error) (ps : List Pattern) (failure : Failure) :
    (lib.resolve g ps).1 = .error failure ↔
      ∃ cause, failure = .grammar cause ∧ lib.FirstMissing [] g ps (some cause) := by
  have hfirst := firstMissing_findings hn hg ps
  simp only [resolve, herror, Finding.rules]
  cases hmissing : (lib.findings g ps).findSome? Finding.missing? with
  | none =>
    rw [hmissing] at hfirst
    refine ⟨fun h => absurd h (by simp [Except.mapError]), ?_⟩
    rintro ⟨cause, -, hcause⟩
    exact absurd (hfirst.unique hcause) (by simp)
  | some e =>
    rw [hmissing] at hfirst
    constructor
    · intro h
      exact ⟨e, (Except.error.inj h).symm, hfirst⟩
    · rintro ⟨cause, rfl, hcause⟩
      obtain rfl := Option.some.inj (hfirst.unique hcause)
      rfl

end Walk

end Library

end ScopePaint
