import Mathlib.Data.Prod.Lex
import ScopePaint.Proofs.Sorting
import ScopePaint.Proofs.Tokens.NextMatch
import ScopePaint.Proofs.Tokens.StackShape

/-!
# The next match is the least one

What can match next are numbered candidates (`Found.Candidate`): the end of the innermost region has
the number 0, and the rules of the innermost scope have the numbers from 1 on, in their order; at the
end of the line there are no rules. The next match is that of the candidate whose match has the least
start and, of those with this start, the least number. If no candidate matches there is no next match
(`Found.next?_least`).

The searches have their results in a list in which the place of a result is the number of its
candidate (`Found.Candidate.getElem?_results`). So the matches ascend by their numbers
(`Found.pairwise_numbered`), and which of two stands first there says the same as their numbers.
-/

set_option autoImplicit false

namespace ScopePaint

open Text (byteLength)

/-! ## Stacks with a region around each content -/

/-- A stack in which no content scope is outermost, so that there is a region right below a content
scope on top. -/
def ScopeStack.WellFormed (stack : ScopeStack) : Prop :=
  ∀ outermost ∈ stack.getLast?, outermost.isContent = false

/-- The stacks that arise are well formed. -/
theorem ScopeStack.Shaped.wellFormed {lib : Library} {id : Nat} {themes : Theme → Prop}
    {stack : ScopeStack} (h : stack.Shaped lib id themes) : stack.WellFormed := by
  induction h with
  | root _ _ _ =>
    intro outermost hout
    obtain rfl := Option.some.inj hout
    rfl
  | region hbelow _ _ _ _ _ ih =>
    intro outermost hout
    rw [List.getLast?_cons, List.getLast?_eq_some_getLast hbelow.ne_nil, Option.getD_some] at hout
    apply ih
    rwa [List.getLast?_eq_some_getLast hbelow.ne_nil]
  | content _ _ _ _ _ ih =>
    intro outermost hout
    rw [List.getLast?_cons_cons] at hout
    exact ih outermost hout

namespace Found

variable {line : List Char} {pos m n : Nat} {stack : ScopeStack} {found f g : Found}
  {r r' : Regex} {step step' : Step}

/-! ## Candidates and their numbers -/

/-- What a number stands for at a place: the expression that is searched for, and what a match of it
is a match of. The number 0 is that of the innermost region's end; if the innermost scope is a
content, its region is the scope below. The numbers from 1 on are those of the innermost scope's
rules, which do not count at the end of the line. -/
inductive Candidate (line : List Char) (pos : Nat) : ScopeStack → Nat → Regex → Step → Prop
  | stop {region : Scope} {below : ScopeStack} {r : Regex} (hregion : region.isContent = false)
      (hstop : region.stop = some r) : Candidate line pos (region :: below) 0 r .stop
  | stopAround {content region : Scope} {below : ScopeStack} {r : Regex}
      (hcontent : content.isContent = true) (hstop : region.stop = some r) :
      Candidate line pos (content :: region :: below) 0 r .stop
  | single {top : Scope} {below : ScopeStack} {i : Nat} {rule : MatchRule}
      (hinside : pos < byteLength line) (hrule : top.rules[i]? = some (.single rule)) :
      Candidate line pos (top :: below) (i + 1) rule.regex (.single rule)
  | region {top : Scope} {below : ScopeStack} {i : Nat} {region : Region} {patterns : List Pattern}
      (hinside : pos < byteLength line)
      (hrule : top.rules[i]? = some (.region region patterns)) :
      Candidate line pos (top :: below) (i + 1) region.start (.region region patterns)

/-- A match is that of the candidate with a number. -/
def IsNumbered (line : List Char) (pos : Nat) (stack : ScopeStack) (n : Nat) (f : Found) : Prop :=
  ∃ r, Candidate line pos stack n r f.step ∧ r.search line pos = .ok (some f.hit)

/-- A number stands for one expression and one step. -/
theorem Candidate.unique (h : Candidate line pos stack n r step)
    (h' : Candidate line pos stack n r' step') : r = r' ∧ step = step' := by
  cases h with
  | stop hregion hstop =>
    cases h' with
    | stop _ hstop' => exact ⟨Option.some.inj (hstop.symm.trans hstop'), rfl⟩
    | stopAround hcontent _ => exact absurd (hregion.symm.trans hcontent) (by simp)
  | stopAround hcontent hstop =>
    cases h' with
    | stop hregion _ => exact absurd (hregion.symm.trans hcontent) (by simp)
    | stopAround _ hstop' => exact ⟨Option.some.inj (hstop.symm.trans hstop'), rfl⟩
  | single _ hrule =>
    cases h' with
    | single _ hrule' => cases hrule.symm.trans hrule'; exact ⟨rfl, rfl⟩
    | region _ hrule' => cases hrule.symm.trans hrule'
  | region _ hrule =>
    cases h' with
    | single _ hrule' => cases hrule.symm.trans hrule'
    | region _ hrule' => cases hrule.symm.trans hrule'; exact ⟨rfl, rfl⟩

/-- The number 0 is that of the end. -/
theorem Candidate.eq_zero_iff (h : Candidate line pos stack n r step) : n = 0 ↔ step = .stop := by
  cases h <;> simp

/-- The match with a number is known. -/
theorem IsNumbered.unique (hf : IsNumbered line pos stack n f) (hg : IsNumbered line pos stack n g) :
    f = g := by
  obtain ⟨r, hr, hhit⟩ := hf
  obtain ⟨r', hr', hhit'⟩ := hg
  obtain ⟨hregex, hstep⟩ := hr.unique hr'
  subst hregex
  have hsame := Option.some.inj (Except.ok.inj (hhit.symm.trans hhit'))
  obtain ⟨hit, step⟩ := f
  obtain ⟨hit', step'⟩ := g
  dsimp only at hsame hstep
  rw [hsame, hstep]

/-! ## The list of all matches with their numbers -/

/-- The matches among the results of searches, each with the number of its search. -/
def numbered (results : List (Option Found)) : List (Nat × Found) :=
  results.zipIdx.filterMap fun entry => entry.1.map fun f => (entry.2, f)

/-- Numbers are places in the list of results. -/
theorem mem_numbered {results : List (Option Found)} :
    (n, f) ∈ numbered results ↔ results[n]? = some (some f) := by
  unfold numbered
  rw [List.mem_filterMap]
  constructor
  · rintro ⟨⟨result, number⟩, hentry, hsome⟩
    obtain ⟨_, rfl, hsame⟩ := Option.map_eq_some_iff.1 hsome
    obtain ⟨rfl, rfl⟩ := Prod.mk.inj hsame
    exact List.mem_zipIdx_iff_getElem?.1 hentry
  · intro hresult
    exact ⟨(some f, n), List.mem_zipIdx_iff_getElem?.2 hresult, rfl⟩

/-- Without their numbers, these are the matches among which the next one is chosen. -/
theorem map_snd_numbered (results : List (Option Found)) :
    (numbered results).map Prod.snd = results.filterMap id := by
  unfold numbered
  rw [List.map_filterMap]
  conv_rhs => rw [← List.zipIdx_map_fst 0 results, List.filterMap_map]
  congr 1
  funext entry
  simp [Function.comp_def]

/-- Numbers ascend in the order of the matches. -/
theorem pairwise_numbered (results : List (Option Found)) :
    (numbered results).Pairwise fun a b => a.1 < b.1 := by
  refine List.pairwise_filterMap.2 ((pairwise_zipIdx results 0).imp ?_)
  intro a b hlt x hx y hy
  obtain ⟨_, -, rfl⟩ := Option.map_eq_some_iff.1 hx
  obtain ⟨_, -, rfl⟩ := Option.map_eq_some_iff.1 hy
  exact hlt

/-- The end of the innermost region is the candidate with the number 0. -/
theorem stop_innermostRegion?_iff (h : stack.WellFormed) :
    (innermostRegion? stack).bind (·.stop) = some r ↔ Candidate line pos stack 0 r .stop := by
  match stack, h with
  | [], _ =>
    constructor
    · intro hnone
      exact absurd hnone (by simp [innermostRegion?])
    · rintro ⟨⟩
  | [top], h =>
    constructor
    · intro hstop
      exact .stop (h top rfl) hstop
    · rintro ⟨-, hstop⟩
      exact hstop
  | top :: region :: below, _ =>
    rw [innermostRegion?, Option.bind_some]
    cases htop : top.isContent with
    | true =>
      constructor
      · intro hstop
        exact .stopAround htop hstop
      · rintro (⟨hregion, -⟩ | ⟨-, hstop⟩)
        · exact absurd (hregion.symm.trans htop) (by simp)
        · exact hstop
    | false =>
      constructor
      · intro hstop
        exact .stop htop hstop
      · rintro (⟨-, hstop⟩ | ⟨hcontent, -⟩)
        · exact hstop
        · exact absurd (htop.symm.trans hcontent) (by simp)

/-- A candidate with a number from 1 on is a rule that counts. -/
theorem Candidate.getElem?_rulesAt (h : Candidate line pos stack (n + 1) r step) :
    ∃ rule, (rulesAt line pos stack)[n]? = some rule ∧
      ofRule? line pos rule = (r.search line pos).map (·.map fun hit => ⟨hit, step⟩) := by
  cases h with
  | @single _ _ _ rule hinside hrule =>
    refine ⟨.single rule, ?_, rfl⟩
    rw [rulesAt, if_pos hinside]
    exact hrule
  | @region _ _ _ region patterns hinside hrule =>
    refine ⟨.region region patterns, ?_, rfl⟩
    rw [rulesAt, if_pos hinside]
    exact hrule

/-- A rule that counts is a candidate. -/
theorem exists_candidate_of_rulesAt {rule : Rule} (h : (rulesAt line pos stack)[n]? = some rule) :
    ∃ r step, Candidate line pos stack (n + 1) r step ∧
      ofRule? line pos rule = (r.search line pos).map (·.map fun hit => ⟨hit, step⟩) := by
  obtain ⟨hinside, top, below, rfl, -⟩ := mem_rulesAt (List.mem_of_getElem? h)
  rw [rulesAt, if_pos hinside] at h
  cases rule with
  | single rule => exact ⟨_, _, .single hinside h, rfl⟩
  | region region patterns => exact ⟨_, _, .region hinside h, rfl⟩

section Results

variable {stop : Option Found} {others : List (Option Found)}
  (hstop : ofStop? line pos stack = .ok stop)
  (hothers : (rulesAt line pos stack).map (ofRule? line pos) = others.map .ok)

include hstop hothers

/-- **The search of a candidate has its result in the list**, at the place of its number. -/
theorem Candidate.getElem?_results (h : stack.WellFormed) (hr : Candidate line pos stack n r step) :
    ∃ hit?, r.search line pos = .ok hit? ∧
      (stop :: others)[n]? = some (hit?.map fun hit => ⟨hit, step⟩) := by
  cases n with
  | zero =>
    obtain rfl := hr.eq_zero_iff.1 rfl
    rw [ofStop?, (stop_innermostRegion?_iff h).2 hr] at hstop
    obtain ⟨hit?, hsearch, rfl⟩ := map_eq_ok_iff.1 hstop
    exact ⟨hit?, hsearch, rfl⟩
  | succ i =>
    obtain ⟨rule, hrule, hof⟩ := hr.getElem?_rulesAt
    have hresult : (others.map (Except.ok (ε := Regex.SearchError)))[i]? =
        some (ofRule? line pos rule) := by
      rw [← hothers, List.getElem?_map, hrule, Option.map_some]
    rw [List.getElem?_map, hof] at hresult
    obtain ⟨result, hget, hok⟩ := Option.map_eq_some_iff.1 hresult
    obtain ⟨hit?, hsearch, rfl⟩ := map_eq_ok_iff.1 hok.symm
    exact ⟨hit?, hsearch, hget⟩

/-- A match in the list is that of the candidate with its number. -/
theorem isNumbered_of_getElem?_results (h : stack.WellFormed)
    (hf : (stop :: others)[n]? = some (some f)) : IsNumbered line pos stack n f := by
  cases n with
  | zero =>
    obtain rfl := Option.some.inj hf
    obtain ⟨hstep, r, hr, hhit⟩ := of_ofStop? hstop
    exact ⟨r, hstep ▸ (stop_innermostRegion?_iff h).1 hr, hhit⟩
  | succ i =>
    have hresult : ((rulesAt line pos stack).map (ofRule? line pos))[i]? = some (.ok (some f)) := by
      rw [hothers, List.getElem?_map, show others[i]? = some (some f) from hf, Option.map_some]
    rw [List.getElem?_map] at hresult
    obtain ⟨rule, hrule, hok⟩ := Option.map_eq_some_iff.1 hresult
    obtain ⟨r, step, hr, hof⟩ := exists_candidate_of_rulesAt hrule
    obtain ⟨hit?, hsearch, hmap⟩ := map_eq_ok_iff.1 (hof.symm.trans hok)
    obtain ⟨hit, rfl, rfl⟩ := Option.map_eq_some_iff.1 hmap
    exact ⟨r, hr, hsearch⟩

/-- **The list holds the matches of all candidates**, each with its number. -/
theorem mem_numbered_results (h : stack.WellFormed) :
    (n, f) ∈ numbered (stop :: others) ↔ IsNumbered line pos stack n f := by
  rw [mem_numbered]
  constructor
  · exact isNumbered_of_getElem?_results hstop hothers h
  · rintro ⟨r, hr, hhit⟩
    obtain ⟨hit?, hsearch, hget⟩ := hr.getElem?_results hstop hothers h
    obtain rfl := Except.ok.inj (hhit.symm.trans hsearch)
    exact hget

end Results

/-- What is taken together from the results is what they hold. -/
theorem filterMap_results (stop : Option Found) (others : List (Option Found)) :
    (stop :: others).filterMap id = stop.toList ++ others.filterMap id := by
  cases stop <;> rfl

/-- A failure is that of the search for a candidate. -/
theorem exists_candidate_of_error (h : stack.WellFormed) {e : Regex.SearchError}
    (herror : candidates line pos stack = .error e) :
    ∃ n r step, Candidate line pos stack n r step ∧ r.search line pos = .error e := by
  rcases bind_eq_error_iff.1 herror with hstop | ⟨stop, -, hrest⟩
  · unfold ofStop? at hstop
    split at hstop
    · rename_i r hr
      exact ⟨0, r, .stop, (stop_innermostRegion?_iff h).1 hr, map_eq_error_iff.1 hstop⟩
    · exact absurd hstop (by simp)
  · rcases bind_eq_error_iff.1 hrest with hothers | ⟨others, -, hdone⟩
    · obtain ⟨rule, hmem, hrule⟩ := exists_of_mapM_eq_error hothers
      obtain ⟨i, hi⟩ := List.mem_iff_getElem?.1 hmem
      obtain ⟨r, step, hr, hof⟩ := exists_candidate_of_rulesAt hi
      exact ⟨i + 1, r, step, hr, map_eq_error_iff.1 (hof.symm.trans hrule)⟩
    · exact absurd hdone (by simp [pure, Except.pure])

/-! ## The least candidate -/

/-- The next match goes before all others: it begins earlier, or with the same start it has the
smaller number. -/
theorem exists_least_of_next? (h : stack.WellFormed)
    (hnext : next? line pos stack = .ok (some found)) :
    ∃ n, IsNumbered line pos stack n found ∧
      ∀ m f, IsNumbered line pos stack m f →
        toLex (found.hit.range.start, n) ≤ toLex (f.hit.range.start, m) := by
  obtain ⟨front, back, hsplit, hfront, hback⟩ := first_of_next? hnext
  obtain ⟨stop, others, hstop, hothers, hparts⟩ := candidates_eq_ok_iff.1 hsplit
  have hnumbered : ∀ {n f}, (n, f) ∈ numbered (stop :: others) ↔ IsNumbered line pos stack n f :=
    mem_numbered_results hstop hothers h
  rw [← filterMap_results, ← map_snd_numbered] at hparts
  obtain ⟨before, rest, hlist, rfl, hrest⟩ := List.map_eq_append_iff.1 hparts
  obtain ⟨⟨n, found⟩, behind, rfl, rfl, rfl⟩ := List.map_eq_cons_iff.1 hrest
  have hascending := hlist ▸ pairwise_numbered (stop :: others)
  have hlater := (List.pairwise_cons.1 (List.pairwise_append.1 hascending).2.1).1
  refine ⟨n, hnumbered.1 (hlist ▸ by simp), ?_⟩
  intro m f hf
  rw [Prod.Lex.toLex_le_toLex]
  have hmem := hnumbered.2 hf
  rw [hlist, List.mem_append, List.mem_cons] at hmem
  rcases hmem with hmem | hmem | hmem
  · left
    exact hfront f (List.mem_map_of_mem hmem)
  · obtain ⟨rfl, rfl⟩ := Prod.mk.inj hmem
    right
    exact ⟨rfl, Nat.le_refl _⟩
  · have hstart := hback f (List.mem_map_of_mem hmem)
    have hnumber := hlater _ hmem
    dsimp only at hstart hnumber ⊢
    omega

/-- If the next match was looked for, so were all candidates. -/
theorem Candidate.search_of_next? (h : stack.WellFormed) {result : Option Found}
    (hnext : next? line pos stack = .ok result) (hr : Candidate line pos stack n r step) :
    ∃ hit?, r.search line pos = .ok hit? := by
  obtain ⟨all, hall, -⟩ := map_eq_ok_iff.1 hnext
  obtain ⟨stop, others, hstop, hothers, -⟩ := candidates_eq_ok_iff.1 hall
  obtain ⟨hit?, hsearch, -⟩ := hr.getElem?_results hstop hothers h
  exact ⟨hit?, hsearch⟩

/-- Where there is no next match, no candidate is found. -/
theorem not_isNumbered_of_next? (h : stack.WellFormed) (hnext : next? line pos stack = .ok none) :
    ¬ IsNumbered line pos stack n f := by
  intro hf
  obtain ⟨all, hall, hearliest⟩ := map_eq_ok_iff.1 hnext
  obtain ⟨stop, others, hstop, hothers, hparts⟩ := candidates_eq_ok_iff.1 hall
  have hempty : (numbered (stop :: others)).map Prod.snd = [] := by
    rw [map_snd_numbered, filterMap_results, hparts, earliest_eq_none_iff.1 hearliest]
  have hmem := (mem_numbered_results hstop hothers h).2 hf
  rw [List.map_eq_nil_iff.1 hempty] at hmem
  exact absurd hmem List.not_mem_nil

/-- If no search for a candidate is given up, the next match is known. -/
theorem exists_next?_of_searches (h : stack.WellFormed)
    (hall : ∀ n r step, Candidate line pos stack n r step →
      ∃ hit?, r.search line pos = .ok hit?) : ∃ result, next? line pos stack = .ok result := by
  unfold next?
  cases hcandidates : candidates line pos stack with
  | ok all => exact ⟨earliest all, rfl⟩
  | error e =>
    obtain ⟨n, r, step, hr, herror⟩ := exists_candidate_of_error h hcandidates
    obtain ⟨hit?, hhit⟩ := hall n r step hr
    exact absurd (herror.symm.trans hhit) (by simp)

/-- Only one match goes before all others. -/
theorem eq_of_least (hf : IsNumbered line pos stack n f) (hg : IsNumbered line pos stack m g)
    (hle : toLex (f.hit.range.start, n) ≤ toLex (g.hit.range.start, m))
    (hge : toLex (g.hit.range.start, m) ≤ toLex (f.hit.range.start, n)) : f = g := by
  have hsame := congrArg ofLex (le_antisymm hle hge)
  obtain ⟨-, rfl⟩ := Prod.mk.inj hsame
  exact hf.unique hg

/-- **The next match is the least candidate.** There is none precisely if no candidate's expression is
found from the place on. Otherwise it is the match and the step of the candidate that is least by
where its match begins and then by its number. It is looked for in vain only where the search for a
candidate is given up. -/
theorem next?_least (line : List Char) (pos : Nat) {stack : ScopeStack} (h : stack.WellFormed) :
    (next? line pos stack = .ok none ↔
      ∀ n r step, Candidate line pos stack n r step → r.search line pos = .ok none) ∧
    (∀ found, next? line pos stack = .ok (some found) ↔
      (∀ n r step, Candidate line pos stack n r step → ∃ hit?, r.search line pos = .ok hit?) ∧
      ∃ n r, Candidate line pos stack n r found.step ∧
        r.search line pos = .ok (some found.hit) ∧
        ∀ m r' step' hit, Candidate line pos stack m r' step' →
          r'.search line pos = .ok (some hit) →
            toLex (found.hit.range.start, n) ≤ toLex (hit.range.start, m)) ∧
    ∀ e, next? line pos stack = .error e →
      ∃ n r step, Candidate line pos stack n r step ∧ r.search line pos = .error e := by
  refine ⟨⟨?_, ?_⟩, fun found => ⟨?_, ?_⟩, ?_⟩
  · intro hnone n r step hr
    obtain ⟨hit?, hsearch⟩ := hr.search_of_next? h hnone
    cases hit? with
    | none => exact hsearch
    | some hit => exact absurd ⟨r, hr, hsearch⟩ (not_isNumbered_of_next? (f := ⟨hit, step⟩) h hnone)
  · intro hno
    obtain ⟨result, hnext⟩ := exists_next?_of_searches h fun n r step hr =>
      ⟨none, hno n r step hr⟩
    cases result with
    | none => exact hnext
    | some found =>
      obtain ⟨n, ⟨r, hr, hhit⟩, -⟩ := exists_least_of_next? h hnext
      exact absurd (hhit.symm.trans (hno n r found.step hr)) (by simp)
  · intro hnext
    obtain ⟨n, ⟨r, hr, hhit⟩, hleast⟩ := exists_least_of_next? h hnext
    refine ⟨fun n r step hr => hr.search_of_next? h hnext, n, r, hr, hhit, ?_⟩
    intro m r' step' hit hr' hhit'
    exact hleast m ⟨hit, step'⟩ ⟨r', hr', hhit'⟩
  · rintro ⟨hall, n, r, hr, hhit, hleast⟩
    obtain ⟨result, hnext⟩ := exists_next?_of_searches h hall
    cases result with
    | none => exact absurd ⟨r, hr, hhit⟩ (not_isNumbered_of_next? h hnext)
    | some other =>
      obtain ⟨m, ⟨r', hr', hhit'⟩, hleast'⟩ := exists_least_of_next? h hnext
      have hge := hleast' n found ⟨r, hr, hhit⟩
      have hle := hleast m r' other.step other.hit hr' hhit'
      rw [hnext, eq_of_least ⟨r, hr, hhit⟩ ⟨r', hr', hhit'⟩ hle hge]
  · intro e herror
    exact exists_candidate_of_error h (map_eq_error_iff.1 herror)

/-- A grammar file in which the end of a region, a rule of its content and another one can match at
the same place. -/
def tiedRecord : GrammarRecord where
  scopeName := "source.ties"
  patterns := [
    { name := some "meta.tag", contentName := some "meta.inside", beginSource := some "<",
      endSource := some ">", patterns := some [
        { name := some "meta.arrow", matchSource := some "-?>+" },
        { name := some "meta.any", matchSource := some "." }] }]

/-- What a line that begins a tag leads to. -/
def tiedOutcome : Except Failure (TokenLine × LineState) :=
  ((Library.ofRecord tiedRecord).tokenizeLine 0 Theme.builtin "<".toList
    (Library.startOf tiedRecord)).1

/-- The scopes inside of a tag: that of its content, that of the region, and that of the grammar. -/
def tiedStack : ScopeStack :=
  match tiedOutcome with
  | .ok (_, next) => next.stack
  | .error _ => []

/-- The stack with two equal candidates is well formed. -/
theorem wellFormed_tiedStack : tiedStack.WellFormed := by
  have hstart : (Library.ofRecord tiedRecord).Reaches 0 (fun _ => True)
      (Library.startOf tiedRecord) := Library.reaches_startOf (by decide +kernel)
  have hbuilt : (Library.ofRecord tiedRecord).Built := .register _ (.empty _)
  have hok : tiedOutcome.isOk = true := by decide +kernel
  obtain ⟨⟨tokens, next⟩, hline⟩ := exists_of_isOk hok
  have hreached := Library.Reaches.next hstart (.refl _) trivial hline
  unfold tiedStack
  rw [hline]
  exact (hreached.shaped hbuilt.sound).wellFormed

/-- The end, which has the number 0, goes before the two rules that begin where it does, though the
first of them matches more. -/
theorem next?_least_tied :
    tiedStack.WellFormed ∧ ∃ found r, next? ">>".toList 0 tiedStack = .ok (some found) ∧
      Candidate ">>".toList 0 tiedStack 0 r found.step ∧
      r.search ">>".toList 0 = .ok (some found.hit) ∧
      ∀ m r' step' hit, Candidate ">>".toList 0 tiedStack m r' step' →
        r'.search ">>".toList 0 = .ok (some hit) →
          toLex (found.hit.range.start, 0) ≤ toLex (hit.range.start, m) := by
  have hends : (next? ">>".toList 0 tiedStack).toOption.join.any
      (fun f => f.step matches .stop) = true := by
    decide +kernel
  cases hnext : next? ">>".toList 0 tiedStack with
  | error e =>
    rw [hnext] at hends
    exact absurd hends (by simp [Except.toOption])
  | ok result =>
    rw [hnext] at hends
    obtain ⟨found, hfound, hstep⟩ := (Option.any_eq_true _ _).1 hends
    obtain rfl : result = some found := hfound
    have hstop : found.step = .stop := by
      split at hstep
      · assumption
      · exact absurd hstep (by simp)
    obtain ⟨-, n, r, hr, hhit, hleast⟩ :=
      ((next?_least ">>".toList 0 wellFormed_tiedStack).2.1 found).1 hnext
    obtain rfl := hr.eq_zero_iff.2 hstop
    exact ⟨wellFormed_tiedStack, found, r, rfl, hr, hhit, hleast⟩

end Found

end ScopePaint
