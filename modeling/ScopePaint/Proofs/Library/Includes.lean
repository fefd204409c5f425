import ScopePaint.Proofs.Library.Destinations

/-!
# Following includes

Includes may go round in circles, within one grammar or through several. `Library.Walked` is the
walk over patterns as it is meant to be, which cuts an include whose key is on the way and knows
nothing of fuel. Since the keys on the way differ, the walk ends, and the fuel is enough for it
(`Library.walked_findings`).

What is cut is not lost. If includes lead from patterns to a rule, they also lead there without
coming back to an include that is on the way (`Library.Yields.route`), and the walk takes that
route. So it finds exactly the rules that the patterns yield, and where no include leads back to
itself it finds them in the order of the expansion.
-/

set_option autoImplicit false

namespace ScopePaint

namespace Library

/-! ## What patterns stand for -/

/-- A rule is among patterns, or where their groups and includes lead to; the patterns of a region
are not entered. -/
inductive Yields (lib : Library) : Grammar → List Pattern → Rule → Prop
  | single {g : Grammar} {patterns : List Pattern} {r : MatchRule}
      (h : .single r ∈ patterns) : Yields lib g patterns (.single r)
  | region {g : Grammar} {patterns inner : List Pattern} {r : Region}
      (h : .region r inner ∈ patterns) : Yields lib g patterns (.region r inner)
  | group {g : Grammar} {patterns inner : List Pattern} {rule : Rule}
      (h : .group inner ∈ patterns) (hr : Yields lib g inner rule) : Yields lib g patterns rule
  | follow {g : Grammar} {patterns : List Pattern} {target : Include} {d : Destination}
      {rule : Rule} (h : .reference target ∈ patterns) (hd : lib.destination? g target = some d)
      (hr : Yields lib d.grammar d.patterns rule) : Yields lib g patterns rule

/-- Includes lead from patterns to a destination. -/
inductive Leads (lib : Library) : Grammar → List Pattern → Destination → Prop
  | direct {g : Grammar} {patterns : List Pattern} {target : Include} {d : Destination}
      (h : .reference target ∈ patterns) (hd : lib.destination? g target = some d) :
      Leads lib g patterns d
  | group {g : Grammar} {patterns inner : List Pattern} {d : Destination}
      (h : .group inner ∈ patterns) (hd : Leads lib g inner d) : Leads lib g patterns d
  | onward {g : Grammar} {patterns : List Pattern} {d d' : Destination}
      (h : Leads lib g patterns d) (hd : Leads lib d.grammar d.patterns d') :
      Leads lib g patterns d'

/-- No include that patterns lead to leads back to itself. -/
def Acyclic (lib : Library) (g : Grammar) (patterns : List Pattern) : Prop :=
  ∀ d, lib.Leads g patterns d → ¬ lib.Leads d.grammar d.patterns d

/-- The rules of patterns in the order in which they stand there, each group and each include
replaced by the rules of what it stands for. -/
inductive Expansion (lib : Library) : Grammar → List Pattern → List Rule → Prop
  | nil {g : Grammar} : Expansion lib g [] []
  | single {g : Grammar} {r : MatchRule} {rest : List Pattern} {rules : List Rule}
      (h : Expansion lib g rest rules) : Expansion lib g (.single r :: rest) (.single r :: rules)
  | region {g : Grammar} {r : Region} {inner rest : List Pattern} {rules : List Rule}
      (h : Expansion lib g rest rules) :
      Expansion lib g (.region r inner :: rest) (.region r inner :: rules)
  | group {g : Grammar} {inner rest : List Pattern} {found rules : List Rule}
      (hinner : Expansion lib g inner found) (h : Expansion lib g rest rules) :
      Expansion lib g (.group inner :: rest) (found ++ rules)
  | missing {g : Grammar} {target : Include} {rest : List Pattern} {rules : List Rule}
      (hd : lib.destination? g target = none) (h : Expansion lib g rest rules) :
      Expansion lib g (.reference target :: rest) rules
  | follow {g : Grammar} {target : Include} {d : Destination} {rest : List Pattern}
      {found rules : List Rule} (hd : lib.destination? g target = some d)
      (hinner : Expansion lib d.grammar d.patterns found) (h : Expansion lib g rest rules) :
      Expansion lib g (.reference target :: rest) (found ++ rules)

/-! ## The walk -/

/-- A walk over patterns of the grammar `g` that comes to its end, with the keys on the way to them
and what it finds. -/
inductive Walked (lib : Library) :
    List String → Grammar → List Pattern → List Finding → Prop
  | nil {visiting : List String} {g : Grammar} : Walked lib visiting g [] []
  | single {visiting : List String} {g : Grammar} {r : MatchRule} {rest : List Pattern}
      {findings : List Finding} (h : Walked lib visiting g rest findings) :
      Walked lib visiting g (.single r :: rest) (.rule (.single r) :: findings)
  | region {visiting : List String} {g : Grammar} {r : Region} {inner rest : List Pattern}
      {findings : List Finding} (h : Walked lib visiting g rest findings) :
      Walked lib visiting g (.region r inner :: rest) (.rule (.region r inner) :: findings)
  | group {visiting : List String} {g : Grammar} {inner rest : List Pattern}
      {found findings : List Finding} (hinner : Walked lib visiting g inner found)
      (h : Walked lib visiting g rest findings) :
      Walked lib visiting g (.group inner :: rest) (found ++ findings)
  | missing {visiting : List String} {g : Grammar} {target : Include} {rest : List Pattern}
      {error : GrammarError} {findings : List Finding} (hd : lib.destination? g target = none)
      (h : Walked lib visiting g rest findings) :
      Walked lib visiting g (.reference target :: rest) (.missing error :: findings)
  | cut {visiting : List String} {g : Grammar} {target : Include} {d : Destination}
      {rest : List Pattern} {warning : Warning} {findings : List Finding}
      (hd : lib.destination? g target = some d) (hkey : d.key ∈ visiting)
      (h : Walked lib visiting g rest findings) :
      Walked lib visiting g (.reference target :: rest) (.cycle warning :: findings)
  | follow {visiting : List String} {g : Grammar} {target : Include} {d : Destination}
      {rest : List Pattern} {found findings : List Finding}
      (hd : lib.destination? g target = some d) (hkey : d.key ∉ visiting)
      (hinner : Walked lib (d.key :: visiting) d.grammar d.patterns found)
      (h : Walked lib visiting g rest findings) :
      Walked lib visiting g (.reference target :: rest) (found ++ findings)

section Walk

variable {lib : Library} {visiting : List String} {g : Grammar}
  {expand : List String → Grammar → List Pattern → List Finding}

mutual

/-- A pattern is walked over before the others, if what its includes stand for is. -/
theorem walked_walk (hn : lib.Named)
    (hexpand : ∀ target d, lib.destination? g target = some d → d.key ∉ visiting →
      lib.Walked (d.key :: visiting) d.grammar d.patterns
        (expand (d.key :: visiting) d.grammar d.patterns))
    (p : Pattern) {rest : List Pattern} {findings : List Finding}
    (h : lib.Walked visiting g rest findings) :
    lib.Walked visiting g (p :: rest) (p.walk (lib.follow expand visiting g) ++ findings) := by
  match p with
  | .single r => exact .single h
  | .region r inner => exact .region h
  | .group inner => exact .group (walked_walkAll hn hexpand inner) h
  | .reference target =>
    rw [Pattern.walk]
    cases hd : lib.destination? g target with
    | none =>
      obtain ⟨error, hfollow⟩ := follow_of_none expand visiting hd
      rw [hfollow]
      exact .missing hd h
    | some d =>
      obtain ⟨warning, hfollow⟩ := follow_of_some expand visiting hn hd
      rw [hfollow]
      by_cases hkey : d.key ∈ visiting
      · rw [if_pos (List.contains_iff_mem.2 hkey)]
        exact .cut hd hkey h
      · rw [if_neg (mt List.contains_iff_mem.1 hkey)]
        exact .follow hd hkey (hexpand target d hd hkey) h

/-- Patterns are walked over if what their includes stand for is. -/
theorem walked_walkAll (hn : lib.Named)
    (hexpand : ∀ target d, lib.destination? g target = some d → d.key ∉ visiting →
      lib.Walked (d.key :: visiting) d.grammar d.patterns
        (expand (d.key :: visiting) d.grammar d.patterns))
    (ps : List Pattern) :
    lib.Walked visiting g ps (Pattern.walkAll (lib.follow expand visiting g) ps) := by
  match ps with
  | [] => exact .nil
  | p :: rest => exact walked_walk hn hexpand p (walked_walkAll hn hexpand rest)

end

/-- What holds of the walk over patterns of any registered grammar as soon as it holds of what their
includes lead to, unless its key is on the way. More fuel than there are keys left to meet is
enough. -/
theorem expand_induction {P : List String → Grammar → List Pattern → List Finding → Prop}
    (hn : lib.Named)
    (hstep : ∀ expand visiting g ps,
      (∀ target d, lib.destination? g target = some d → d.key ∉ visiting →
        P (d.key :: visiting) d.grammar d.patterns
          (expand (d.key :: visiting) d.grammar d.patterns)) →
      P visiting g ps (Pattern.walkAll (lib.follow expand visiting g) ps))
    (fuel : Nat) (hg : lib.Stands g) (hnodup : visiting.Nodup) (hkeys : visiting ⊆ lib.keys)
    (hfuel : lib.keys.length < fuel + visiting.length) (ps : List Pattern) :
    P visiting g ps (lib.expand fuel visiting g ps) := by
  induction fuel generalizing visiting g ps with
  | zero =>
    have hlength := (List.subperm_of_subset hnodup hkeys).length_le
    omega
  | succ fuel ih =>
    refine hstep _ visiting g ps fun target d hd hkey => ?_
    have hoffered := Destination.offered_of_destination? hn hg hd
    refine ih hoffered.stands (List.nodup_cons.2 ⟨hkey, hnodup⟩)
      (List.cons_subset.2 ⟨hoffered.key_mem, hkeys⟩) ?_ d.patterns
    rw [List.length_cons]
    omega

/-- The same for a walk that has no keys on its way yet. -/
theorem findings_induction {P : List String → Grammar → List Pattern → List Finding → Prop}
    (hn : lib.Named)
    (hstep : ∀ expand visiting g ps,
      (∀ target d, lib.destination? g target = some d → d.key ∉ visiting →
        P (d.key :: visiting) d.grammar d.patterns
          (expand (d.key :: visiting) d.grammar d.patterns)) →
      P visiting g ps (Pattern.walkAll (lib.follow expand visiting g) ps))
    (hg : lib.Stands g) (ps : List Pattern) : P [] g ps (lib.findings g ps) := by
  refine expand_induction hn hstep _ hg List.nodup_nil (List.nil_subset _) ?_ ps
  have hcount := lib.length_keys_le_keyCount g
  rw [List.length_nil]
  omega

/-- **The walk over patterns of a registered grammar ends.** -/
theorem walked_findings (hn : lib.Named) (hg : lib.Stands g) (ps : List Pattern) :
    lib.Walked [] g ps (lib.findings g ps) :=
  findings_induction hn (fun _ _ _ ps hexpand => walked_walkAll hn hexpand ps) hg ps

end Walk

/-! ## Nothing else is found -/

/-- What some patterns yield more of them yield. -/
theorem Yields.mono {lib : Library} {g : Grammar} {ps qs : List Pattern} {rule : Rule}
    (h : lib.Yields g ps rule) (hsub : ps ⊆ qs) : lib.Yields g qs rule := by
  cases h with
  | single h => exact .single (hsub h)
  | region h => exact .region (hsub h)
  | group h hr => exact .group (hsub h) hr
  | follow h hd hr => exact .follow (hsub h) hd hr

/-- A pattern in front takes nothing away. -/
theorem Yields.cons {lib : Library} {g : Grammar} {ps : List Pattern} {rule : Rule}
    (h : lib.Yields g ps rule) (p : Pattern) : lib.Yields g (p :: ps) rule :=
  h.mono (List.subset_cons_self _ _)

/-- A walk finds only rules that the patterns yield. -/
theorem Walked.yields {lib : Library} {visiting : List String} {g : Grammar} {ps : List Pattern}
    {findings : List Finding} (h : lib.Walked visiting g ps findings) {rule : Rule}
    (hrule : .rule rule ∈ findings) : lib.Yields g ps rule := by
  induction h with
  | nil => exact absurd hrule (by simp)
  | single _ ih =>
    rcases List.mem_cons.1 hrule with heq | hrule
    · obtain rfl := Finding.rule.inj heq
      exact .single List.mem_cons_self
    · exact (ih hrule).cons _
  | region _ ih =>
    rcases List.mem_cons.1 hrule with heq | hrule
    · obtain rfl := Finding.rule.inj heq
      exact .region List.mem_cons_self
    · exact (ih hrule).cons _
  | group _ _ ihinner ih =>
    rcases List.mem_append.1 hrule with hrule | hrule
    · exact .group List.mem_cons_self (ihinner hrule)
    · exact (ih hrule).cons _
  | missing _ _ ih =>
    rcases List.mem_cons.1 hrule with heq | hrule
    · exact absurd heq (by simp)
    · exact (ih hrule).cons _
  | cut _ _ _ ih =>
    rcases List.mem_cons.1 hrule with heq | hrule
    · exact absurd heq (by simp)
    · exact (ih hrule).cons _
  | follow hd _ _ _ ihinner ih =>
    rcases List.mem_append.1 hrule with hrule | hrule
    · exact .follow List.mem_cons_self hd (ihinner hrule)
    · exact (ih hrule).cons _

/-! ## Nothing is lost -/

/-- The way from patterns to a rule, with the destinations that it passes through. -/
inductive Route (lib : Library) : Grammar → List Pattern → List Destination → Rule → Prop
  | single {g : Grammar} {patterns : List Pattern} {r : MatchRule}
      (h : .single r ∈ patterns) : Route lib g patterns [] (.single r)
  | region {g : Grammar} {patterns inner : List Pattern} {r : Region}
      (h : .region r inner ∈ patterns) : Route lib g patterns [] (.region r inner)
  | group {g : Grammar} {patterns inner : List Pattern} {way : List Destination} {rule : Rule}
      (h : .group inner ∈ patterns) (hr : Route lib g inner way rule) :
      Route lib g patterns way rule
  | follow {g : Grammar} {patterns : List Pattern} {target : Include} {d : Destination}
      {way : List Destination} {rule : Rule} (h : .reference target ∈ patterns)
      (hd : lib.destination? g target = some d)
      (hr : Route lib d.grammar d.patterns way rule) : Route lib g patterns (d :: way) rule

section Route

variable {lib : Library} {g : Grammar} {ps : List Pattern} {rule : Rule}

/-- A way that passes through a destination goes on from there. -/
theorem Route.of_append {front back : List Destination} {d : Destination}
    (h : lib.Route g ps (front ++ d :: back) rule) :
    lib.Route d.grammar d.patterns back rule := by
  generalize hway : front ++ d :: back = way at h
  induction h generalizing front with
  | single _ => exact absurd hway (by simp)
  | region _ => exact absurd hway (by simp)
  | group _ _ ih => exact ih hway
  | follow _ _ hr ih =>
    cases front with
    | nil =>
      obtain ⟨rfl, rfl⟩ := List.cons.inj hway
      exact hr
    | cons d' front => exact ih (List.cons.inj hway).2

/-- A way passes through offered destinations only. -/
theorem Route.offered (hn : lib.Named) (hg : lib.Stands g) {way : List Destination}
    (h : lib.Route g ps way rule) : ∀ d ∈ way, d.Offered lib := by
  induction h with
  | single _ => exact fun d hd => absurd hd (by simp)
  | region _ => exact fun d hd => absurd hd (by simp)
  | group _ _ ih => exact ih hg
  | follow _ hd _ ih =>
    have hoffered := Destination.offered_of_destination? hn hg hd
    exact List.forall_mem_cons.2 ⟨hoffered, ih hoffered.stands⟩

/-- **A rule can be reached without coming back to a key.** Where a way does come back to one, what
is between can be left out. -/
theorem Yields.route (hn : lib.Named) (hsep : lib.Separable) (hg : lib.Stands g)
    (h : lib.Yields g ps rule) :
    ∃ way, lib.Route g ps way rule ∧ (way.map Destination.key).Nodup := by
  induction h with
  | single h => exact ⟨[], .single h, List.nodup_nil⟩
  | region h => exact ⟨[], .region h, List.nodup_nil⟩
  | group h _ ih =>
    obtain ⟨way, hway, hnodup⟩ := ih hg
    exact ⟨way, .group h hway, hnodup⟩
  | @follow g ps target d rule h hd _ ih =>
    have hoffered := Destination.offered_of_destination? hn hg hd
    obtain ⟨way, hway, hnodup⟩ := ih hoffered.stands
    by_cases hkey : d.key ∈ way.map Destination.key
    · obtain ⟨d', hd', hkey'⟩ := List.mem_map.1 hkey
      obtain rfl : d' = d := (hway.offered hn hoffered.stands d' hd').unique hsep hoffered hkey'
      obtain ⟨front, back, rfl⟩ := List.append_of_mem hd'
      refine ⟨d' :: back, .follow h hd hway.of_append, ?_⟩
      rw [List.map_append] at hnodup
      exact hnodup.of_append_right
    · exact ⟨d :: way, .follow h hd hway, List.nodup_cons.2 ⟨hkey, hnodup⟩⟩

/-- A walk over some patterns is one over the first of them and then one over the others. -/
theorem Walked.uncons {visiting : List String} {p : Pattern} {rest : List Pattern}
    {findings : List Finding} (h : lib.Walked visiting g (p :: rest) findings) :
    ∃ part left, findings = part ++ left ∧ lib.Walked visiting g [p] part ∧
      lib.Walked visiting g rest left := by
  cases h with
  | single h => exact ⟨[_], _, rfl, .single .nil, h⟩
  | region h => exact ⟨[_], _, rfl, .region .nil, h⟩
  | group hinner h => exact ⟨_, _, by rw [List.append_nil], .group hinner .nil, h⟩
  | missing hd h => exact ⟨[_], _, rfl, .missing hd .nil, h⟩
  | cut hd hkey h => exact ⟨[_], _, rfl, .cut hd hkey .nil, h⟩
  | follow hd hkey hinner h =>
    exact ⟨_, _, by rw [List.append_nil], .follow hd hkey hinner .nil, h⟩

/-- A walk over patterns includes one over each of them. -/
theorem Walked.of_mem {visiting : List String} {findings : List Finding}
    (h : lib.Walked visiting g ps findings) {p : Pattern} (hp : p ∈ ps) :
    ∃ part, part ⊆ findings ∧ lib.Walked visiting g [p] part := by
  induction ps generalizing findings with
  | nil => exact absurd hp List.not_mem_nil
  | cons q rest ih =>
    obtain ⟨part, left, rfl, hpart, hleft⟩ := h.uncons
    rcases List.mem_cons.1 hp with rfl | hp
    · exact ⟨part, List.subset_append_left _ _, hpart⟩
    · obtain ⟨part', hsub, hwalked⟩ := ih hleft hp
      exact ⟨part', List.subset_append_of_subset_right _ hsub, hwalked⟩

/-- A walk takes each way that does not come back to a key. -/
theorem Route.mem_findings {way : List Destination} (hr : lib.Route g ps way rule)
    (hnodup : (way.map Destination.key).Nodup) {visiting : List String}
    (hfresh : ∀ d ∈ way, d.key ∉ visiting) {findings : List Finding}
    (h : lib.Walked visiting g ps findings) : .rule rule ∈ findings := by
  induction hr generalizing visiting findings with
  | single hmem =>
    obtain ⟨part, hpart, hwalked⟩ := h.of_mem hmem
    cases hwalked with
    | single _ => exact hpart List.mem_cons_self
  | region hmem =>
    obtain ⟨part, hpart, hwalked⟩ := h.of_mem hmem
    cases hwalked with
    | region _ => exact hpart List.mem_cons_self
  | group hmem _ ih =>
    obtain ⟨part, hpart, hwalked⟩ := h.of_mem hmem
    cases hwalked with
    | group hinner _ => exact hpart (List.mem_append_left _ (ih hnodup hfresh hinner))
  | @follow g ps target d way rule hmem hd _ ih =>
    obtain ⟨hkey, hnodup⟩ := List.nodup_cons.1 hnodup
    obtain ⟨hd', hfresh⟩ := List.forall_mem_cons.1 hfresh
    obtain ⟨part, hpart, hwalked⟩ := h.of_mem hmem
    cases hwalked with
    | missing hnone _ => exact absurd (hd.symm.trans hnone) (by simp)
    | cut hsome hcut _ =>
      obtain rfl := Option.some.inj (hd.symm.trans hsome)
      exact absurd hcut hd'
    | follow hsome _ hinner _ =>
      obtain rfl := Option.some.inj (hd.symm.trans hsome)
      refine hpart (List.mem_append_left _ (ih hnodup (fun e he => ?_) hinner))
      rw [List.mem_cons, not_or]
      exact ⟨fun heq => hkey (List.mem_map.2 ⟨e, he, heq⟩), hfresh e he⟩

/-- **A walk finds exactly the rules that the patterns yield.** -/
theorem Walked.mem_findings_iff (hn : lib.Named) (hsep : lib.Separable) (hg : lib.Stands g)
    {findings : List Finding} (h : lib.Walked [] g ps findings) :
    .rule rule ∈ findings ↔ lib.Yields g ps rule := by
  refine ⟨h.yields, fun hr => ?_⟩
  obtain ⟨way, hway, hnodup⟩ := hr.route hn hsep hg
  exact hway.mem_findings hnodup (fun _ _ => List.not_mem_nil) h

end Route

/-! ## The order of the rules -/

section Order

variable {lib : Library} {g : Grammar} {ps qs : List Pattern}

/-- Where some patterns lead more of them lead. -/
theorem Leads.mono {d : Destination} (h : lib.Leads g ps d) (hsub : ps ⊆ qs) :
    lib.Leads g qs d := by
  induction h with
  | direct h hd => exact .direct (hsub h) hd
  | group h hd _ => exact .group (hsub h) hd
  | onward _ hd ih _ => exact .onward (ih hsub) hd

/-- A pattern in front keeps all destinations. -/
theorem Leads.cons {d : Destination} (h : lib.Leads g ps d) (p : Pattern) :
    lib.Leads g (p :: ps) d :=
  h.mono (List.subset_cons_self _ _)

/-- No include that patterns lead to leads back to itself, and the keys on the way are those of
destinations from which includes led on to all that these patterns lead to. -/
structure Unwound (lib : Library) (visiting : List String) (g : Grammar) (ps : List Pattern) :
    Prop where
  acyclic : lib.Acyclic g ps
  passed : ∀ key ∈ visiting, ∃ d : Destination, d.Offered lib ∧ d.key = key ∧
    ∀ d', lib.Leads g ps d' → lib.Leads d.grammar d.patterns d'

/-- Patterns that lead nowhere else are unwound if the others are. -/
theorem Unwound.mono {visiting : List String} (h : lib.Unwound visiting g qs)
    (hsub : ∀ d, lib.Leads g ps d → lib.Leads g qs d) : lib.Unwound visiting g ps where
  acyclic := fun d hd => h.acyclic d (hsub d hd)
  passed := by
    intro key hkey
    obtain ⟨d, hd, heq, hleads⟩ := h.passed key hkey
    exact ⟨d, hd, heq, fun d' hd' => hleads d' (hsub d' hd')⟩

/-- Going where an include leads to puts its key on the way. -/
theorem Unwound.follow {visiting : List String} (h : lib.Unwound visiting g ps) {d : Destination}
    (hd : d.Offered lib) (hleads : lib.Leads g ps d) :
    lib.Unwound (d.key :: visiting) d.grammar d.patterns where
  acyclic := fun d' hd' => h.acyclic d' (hleads.onward hd')
  passed := by
    intro key hmem
    rcases List.mem_cons.1 hmem with rfl | hmem
    · exact ⟨d, hd, rfl, fun _ hd' => hd'⟩
    · obtain ⟨e, he, heq, honward⟩ := h.passed key hmem
      exact ⟨e, he, heq, fun d' hd' => honward d' (hleads.onward hd')⟩

/-- **Where no include leads back to itself, a walk finds the expansion.** An include whose key is
on the way would lead back to itself. -/
theorem Walked.expansion (hn : lib.Named) (hsep : lib.Separable) (hg : lib.Stands g)
    {visiting : List String} {findings : List Finding}
    (h : lib.Walked visiting g ps findings) (hunwound : lib.Unwound visiting g ps) :
    lib.Expansion g ps (findings.filterMap Finding.rule?) := by
  induction h with
  | nil => exact .nil
  | single _ ih => exact .single (ih hg (hunwound.mono fun d hd => hd.cons _))
  | region _ ih => exact .region (ih hg (hunwound.mono fun d hd => hd.cons _))
  | group _ _ ihinner ih =>
    rw [List.filterMap_append]
    exact .group (ihinner hg (hunwound.mono fun d hd => .group List.mem_cons_self hd))
      (ih hg (hunwound.mono fun d hd => hd.cons _))
  | missing hd _ ih => exact .missing hd (ih hg (hunwound.mono fun d hd => hd.cons _))
  | cut hd hkey _ _ =>
    obtain ⟨d', hd', hsame, honward⟩ := hunwound.passed _ hkey
    obtain rfl := hd'.unique hsep (Destination.offered_of_destination? hn hg hd) hsame
    have hleads := honward d' (.direct List.mem_cons_self hd)
    exact absurd hleads (hunwound.acyclic d' (.direct List.mem_cons_self hd))
  | follow hd _ _ _ ihinner ih =>
    have hoffered := Destination.offered_of_destination? hn hg hd
    rw [List.filterMap_append]
    exact .follow hd
      (ihinner hoffered.stands (hunwound.follow hoffered (.direct List.mem_cons_self hd)))
      (ih hg (hunwound.mono fun d hd => hd.cons _))

end Order

/-! ## What libraries answer -/

/-- The rules that patterns of the grammar `g` stand for: those that a walk finds which comes to its
end, which are exactly the rules that the patterns yield, and stand in the order of the expansion if
no include leads back to itself. -/
structure Resolved (lib : Library) (g : Grammar) (patterns : List Pattern) (rules : List Rule) :
    Prop where
  walked : ∃ findings, lib.Walked [] g patterns findings ∧
    rules = findings.filterMap Finding.rule?
  mem_iff : ∀ rule, rule ∈ rules ↔ lib.Yields g patterns rule
  expansion : lib.Acyclic g patterns → lib.Expansion g patterns rules

/-- The rules that are found are those among the findings. -/
theorem mem_filterMap_rule? {findings : List Finding} {rule : Rule} :
    rule ∈ findings.filterMap Finding.rule? ↔ .rule rule ∈ findings := by
  rw [List.mem_filterMap]
  refine ⟨fun ⟨finding, hmem, hrule⟩ => ?_, fun hmem => ⟨.rule rule, hmem, rfl⟩⟩
  cases finding with
  | rule r =>
    obtain rfl := Option.some.inj hrule
    exact hmem
  | cycle w => exact absurd hrule (by simp [Finding.rule?])
  | missing e => exact absurd hrule (by simp [Finding.rule?])

/-- **Resolving finds what patterns of a registered grammar stand for.** -/
theorem resolved_resolve {lib : Library} (hn : lib.Named) (hsep : lib.Separable)
    (hwarn : lib.options.missing = .warn) {g : Grammar} (hg : lib.Stands g)
    (patterns : List Pattern) :
    ∃ rules, (lib.resolve g patterns).1 = .ok rules ∧ lib.Resolved g patterns rules := by
  have hwalked := walked_findings hn hg patterns
  refine ⟨_, by simp only [resolve, hwarn, Finding.rules]; rfl, ⟨_, hwalked, rfl⟩, ?_, ?_⟩
  · intro rule
    rw [mem_filterMap_rule?, hwalked.mem_findings_iff hn hsep hg]
  · intro hacyclic
    exact hwalked.expansion hn hsep hg ⟨hacyclic, fun key hkey => absurd hkey List.not_mem_nil⟩

end Library

end ScopePaint
