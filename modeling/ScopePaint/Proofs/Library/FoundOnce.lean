import ScopePaint.Proofs.Library.Answers
import ScopePaint.Theme.Default
import ScopePaint.Tokens.Tokenizer

/-!
# Rules are found once

A library is called in any order: grammars are registered, rules are asked for, lines are tokenized.
A call looks for the rules of one grammar at most, and it does so only if that grammar is registered
and no rules are kept for it. Then the search is counted, and what it finds is kept
(`Library.Call.record_after`). Whatever else it does for that grammar leaves the members as they are
and keeps rules only for regions that had none (`Library.OnlyNests`).

So the first search that finds rules is the last one for its grammar: the count is one more than the
searches that failed, and all later calls see these rules, even if by then other grammars are
registered with which a search would find different ones (`Library.rules_frozen`).
-/

set_option autoImplicit false

namespace ScopePaint

/-- A member whose rules were looked for once more, and these were found. -/
def Member.looked (m : Member) (found : Option (List Rule)) : Member :=
  { m with rules := found, resolutions := m.resolutions + 1 }

namespace Library

/-! ## Calls -/

/-- What a library can be called for. -/
inductive Call where
  | register (g : Grammar)
  | rules (id : Nat)
  | nestedRules (r : Region) (patterns : List Pattern)
  | firstLineState (id : Nat) (theme : Theme)
  | baseValues (id : Nat) (theme : Theme)
  | tokenizeLine (id : Nat) (theme : Theme) (line : List Char) (state : LineState)

/-- Why there is no result. -/
def failureOf {α : Type} : Except Failure α → Option Failure
  | .ok _ => none
  | .error e => some e

namespace Call

/-- The grammar whose rules a call asks for before anything else. -/
def grammar? : Call → Option Nat
  | rules id | firstLineState id _ | baseValues id _ | tokenizeLine id _ _ _ => some id
  | register _ | nestedRules _ _ => none

/-- Why a call fails, if it does. -/
def failure? (lib : Library) : Call → Option Failure
  | register _ => none
  | rules id => failureOf (lib.rules id).1
  | nestedRules r patterns => failureOf (lib.nestedRules r patterns).1
  | firstLineState id theme => failureOf (lib.firstLineState id theme).1
  | baseValues id theme => failureOf (lib.baseValues id theme).1
  | tokenizeLine id theme line state => failureOf (lib.tokenizeLine id theme line state).1

/-- What a call leaves of the library, also where it fails. -/
def after (lib : Library) : Call → Library
  | register g => (lib.register g).1
  | rules id => (lib.rules id).2
  | nestedRules r patterns => (lib.nestedRules r patterns).2
  | firstLineState id theme => (lib.firstLineState id theme).2
  | baseValues id theme => (lib.baseValues id theme).2
  | tokenizeLine id theme line state => (lib.tokenizeLine id theme line state).2

/-- A call is not broken off: it has a result, or it says what is wrong with a grammar. -/
def Completes (c : Call) (lib : Library) : Prop :=
  ∀ e, c.failure? lib = some e → ∃ cause, e = .grammar cause

end Call

/-- What calls one after the other leave of a library. -/
def afterCalls (lib : Library) (calls : List Call) : Library :=
  calls.foldl (fun lib c => c.after lib) lib

/-- Asking for the rules of a grammar ends with the error of a grammar. -/
def failsFor (lib : Library) (id : Nat) : Bool :=
  match (lib.rules id).1 with
  | .error (.grammar _) => true
  | _ => false

/-- How many of the calls looked for the rules of a grammar and failed. -/
def failedSearches (id : Nat) (lib : Library) : List Call → Nat
  | [] => 0
  | c :: rest =>
    (if c.grammar? = some id ∧ lib.failsFor id = true then 1 else 0)
      + failedSearches id (c.after lib) rest

/-- None of the calls found the rules of a grammar. -/
def Unfound (id : Nat) (lib : Library) : List Call → Prop
  | [] => True
  | c :: rest =>
    (c.grammar? = some id → ∀ found, (lib.rules id).1 ≠ .ok found) ∧ Unfound id (c.after lib) rest

/-- Of calls one after the other, the one behind the others is the first that finds the rules of a
grammar. -/
structure FirstFinds (lib : Library) (before : List Call) (c : Call) (id : Nat)
    (rules : List Rule) : Prop where
  asks : c.grammar? = some id
  unfound : Unfound id lib before
  found : ((lib.afterCalls before).rules id).1 = .ok rules

section Calls

variable {lib : Library} {id : Nat} {rules : List Rule} {c : Call} {calls : List Call}

/-- Calls are made one after the other. -/
theorem afterCalls_cons : lib.afterCalls (c :: calls) = (c.after lib).afterCalls calls := rfl

/-- More calls are made behind those before. -/
theorem afterCalls_append (more : List Call) :
    lib.afterCalls (calls ++ more) = (lib.afterCalls calls).afterCalls more :=
  List.foldl_append

end Calls

/-! ## What happens besides looking for the rules of a grammar -/

/-- Nothing was found but rules of regions for which none were kept. -/
structure OnlyNests (a b : Library) : Prop where
  members : b.members = a.members
  nested : ∀ place rules, a.nested.lookup place = some rules → b.nested.lookup place = some rules

namespace OnlyNests

/-- Doing nothing finds nothing. -/
theorem refl (lib : Library) : OnlyNests lib lib := ⟨rfl, fun _ _ h => h⟩

/-- Two parts that only find rules of regions do so together. -/
theorem trans {a b c : Library} (h : OnlyNests a b) (h' : OnlyNests b c) : OnlyNests a c :=
  ⟨h'.members.trans h.members, fun place rules hkept => h'.nested place rules
    (h.nested place rules hkept)⟩

end OnlyNests

/-- The rules of a region that are kept are given again. -/
theorem nestedRules_of_lookup {lib : Library} {r : Region} {rules : List Rule}
    (h : lib.nested.lookup r.place = some rules) (patterns : List Pattern) :
    lib.nestedRules r patterns = (.ok rules, lib) := by
  unfold nestedRules
  rw [h]

/-- Looking for the rules of a region finds nothing else. -/
theorem onlyNests_nestedRules (lib : Library) (r : Region) (patterns : List Pattern) :
    OnlyNests lib (lib.nestedRules r patterns).2 := by
  obtain ⟨-, hmembers, hnested⟩ := lib.nestedRules_snd r patterns
  refine ⟨hmembers, fun place rules hkept => ?_⟩
  cases hplace : lib.nested.lookup r.place with
  | some old => rwa [nestedRules_of_lookup hplace]
  | none =>
    rcases hnested with heq | ⟨found, -, heq⟩
    · rwa [heq]
    · have hne : place ≠ r.place := by
        rintro rfl
        rw [hplace] at hkept
        exact absurd hkept (by simp)
      rw [heq, List.lookup_cons, beq_eq_false_iff_ne.2 hne]
      exact hkept

section Line

variable {lib : Library} {theme : Theme} {scope : ScopeName} {line : List Char} {p : Progress}

/-- A step of tokenizing finds nothing but rules of regions. -/
theorem onlyNests_step : OnlyNests lib (p.step lib theme scope line).2 := by
  unfold Progress.step
  cases Found.next? line p.pos p.stack with
  | error e => exact .refl lib
  | ok result =>
    cases result with
    | none => exact .refl lib
    | some found =>
      dsimp only
      cases p.moveTo found.hit.range.start with
      | error e => exact .refl lib
      | ok m =>
        dsimp only
        cases found.step with
        | stop => exact .refl lib
        | single rule => exact .refl lib
        | region r patterns =>
          dsimp only
          split
          · exact .refl lib
          · cases r.stop.resolve line found.hit with
            | error cause => exact .refl lib
            | ok stop =>
              have hasked := onlyNests_nestedRules lib r patterns
              dsimp only
              split <;> rename_i hrules <;> rw [hrules] at hasked <;> exact hasked

/-- So do all steps together. -/
theorem onlyNests_run (fuel : Nat) :
    OnlyNests lib (Progress.run theme scope line fuel lib p).2 := by
  induction fuel generalizing lib p with
  | zero => exact .refl lib
  | succ fuel ih =>
    have hstep : OnlyNests lib (p.step lib theme scope line).2 := onlyNests_step
    rw [Progress.run]
    split <;> rename_i heq <;> rw [heq] at hstep
    · exact hstep
    · exact hstep
    · exact hstep.trans ih

end Line

/-- The state in front of the first line is made from the rules of the grammar. -/
theorem firstLineState_snd (lib : Library) (id : Nat) (theme : Theme) :
    (lib.firstLineState id theme).2 = (lib.rules id).2 := by
  unfold firstLineState
  split <;> rename_i heq <;> rw [heq]
  split <;> rfl

/-- **A call begins with the rules of its grammar**; from there on it finds rules of regions
only. -/
theorem Call.onlyNests {c : Call} {id : Nat} (h : c.grammar? = some id) (lib : Library) :
    OnlyNests (lib.rules id).2 (c.after lib) := by
  cases c with
  | register g => exact absurd h (by simp [grammar?])
  | nestedRules r patterns => exact absurd h (by simp [grammar?])
  | rules asked =>
    obtain rfl := Option.some.inj h
    exact .refl _
  | firstLineState asked theme =>
    obtain rfl := Option.some.inj h
    dsimp only [after]
    rw [firstLineState_snd]
    exact .refl _
  | baseValues asked theme =>
    obtain rfl := Option.some.inj h
    have hfirst := lib.firstLineState_snd asked theme
    dsimp only [after]
    unfold Library.baseValues
    split <;> rename_i heq <;> rw [heq] at hfirst <;> rw [← hfirst]
    · exact .refl _
    · split
      · exact .refl _
      · exact ⟨rfl, fun _ _ hkept => hkept⟩
  | tokenizeLine asked theme line state =>
    obtain rfl := Option.some.inj h
    dsimp only [after]
    unfold Library.tokenizeLine
    split <;> rename_i heq <;> rw [heq]
    · exact .refl _
    · rename_i found lib'
      have hrun : OnlyNests lib' (lib'.runLine asked theme line state).2 := onlyNests_run _
      dsimp only
      split
      · split <;> exact .refl _
      · split <;> rename_i hres <;> rw [hres] at hrun <;> exact hrun

/-! ## Looking for the rules of a grammar -/

/-- The rules that are kept for a grammar. -/
def kept? (lib : Library) (id : Nat) : Option (List Rule) := (lib.members[id]?).bind (·.rules)

/-- What is known of a grammar: the rules that are kept, and how often they were looked for. -/
def record (lib : Library) (id : Nat) : Option (List Rule) × Nat :=
  (lib.kept? id, lib.resolutions id)

/-- Whether asking for the rules of a grammar is looking for them: it is registered, and none are
kept. -/
def looks (lib : Library) (id : Nat) : Bool := lib.isRegistered id && (lib.kept? id).isNone

section Looking

variable {lib : Library} {id : Nat} {rules : List Rule}

/-- Rules that are kept are the answer, as long as their grammar is registered. -/
theorem rules_of_kept? (h : lib.kept? id = some rules) (hr : lib.isRegistered id = true) :
    lib.rules id = (.ok rules, lib) := by
  obtain ⟨m, hm, hrules⟩ := Option.bind_eq_some_iff.1 h
  unfold Library.rules
  simp only [hm, if_pos hr, hrules]

/-- The rules of a grammar that is not registered may not be asked for. -/
theorem rules_of_not_isRegistered (hr : lib.isRegistered id = false) :
    ∃ scope, lib.rules id = (.error (.unregistered scope), lib) := by
  unfold Library.rules
  cases lib.members[id]? with
  | none => exact ⟨_, rfl⟩
  | some m =>
    dsimp only
    rw [if_neg (by simp [hr])]
    exact ⟨_, rfl⟩

/-- A grammar that gives rules counts. -/
theorem isRegistered_of_rules (h : (lib.rules id).1 = .ok rules) : lib.isRegistered id = true := by
  cases hr : lib.isRegistered id with
  | true => rfl
  | false =>
    obtain ⟨scope, hrules⟩ := rules_of_not_isRegistered hr
    exact absurd h (by simp [hrules])

/-- Documents start with the rules that are kept. -/
theorem firstLineState_of_kept? {theme : Theme} {state : LineState} (h : lib.kept? id = some rules)
    (hstate : (lib.firstLineState id theme).1 = .ok state) :
    ∃ g, lib.grammar? id = some g ∧ state = .first theme g rules := by
  cases hr : lib.isRegistered id with
  | false =>
    obtain ⟨scope, hrules⟩ := rules_of_not_isRegistered hr
    exact absurd hstate (by simp [firstLineState, hrules])
  | true =>
    unfold firstLineState at hstate
    rw [rules_of_kept? h hr] at hstate
    dsimp only at hstate
    cases hg : lib.grammar? id with
    | none => exact absurd hstate (by simp [hg])
    | some g =>
      rw [hg] at hstate
      exact ⟨g, rfl, (Except.ok.inj hstate).symm⟩

/-- A search looks through the patterns of its grammar. -/
theorem rules_of_looks (h : lib.looks id = true) :
    ∃ m, lib.members[id]? = some m ∧ m.rules = none ∧
      (lib.rules id).1 = (lib.resolve m.grammar m.grammar.patterns).1 := by
  obtain ⟨hr, hnone⟩ := Bool.and_eq_true_iff.1 h
  cases hm : lib.members[id]? with
  | none =>
    rw [isRegistered, grammar?, hm] at hr
    exact absurd hr (by simp)
  | some m =>
    rw [kept?, hm] at hnone
    have hrules : m.rules = none := by simpa using hnone
    refine ⟨m, rfl, hrules, ?_⟩
    rw [rules_fst]
    simp only [hm, if_pos hr, hrules]

/-- A search that finds nothing fails with the error of a grammar. -/
theorem looks_eq_failsFor (hnone : lib.kept? id = none)
    (hunfound : ∀ found, (lib.rules id).1 ≠ .ok found) : lib.looks id = lib.failsFor id := by
  cases hr : lib.isRegistered id with
  | false =>
    obtain ⟨scope, hrules⟩ := rules_of_not_isRegistered hr
    simp [looks, hr, failsFor, hrules]
  | true =>
    have hlooks : lib.looks id = true := by simp [looks, hr, hnone]
    obtain ⟨m, -, -, hresolve⟩ := rules_of_looks hlooks
    rw [hlooks]
    cases hrules : (lib.rules id).1 with
    | ok found => exact absurd hrules (hunfound found)
    | error e =>
      obtain ⟨cause, rfl⟩ := resolve_error (hresolve.symm.trans hrules)
      simp [failsFor, hrules]

/-- Where looking for rules fails there are none. -/
theorem toOption_of_failsFor (h : lib.failsFor id = true) : (lib.rules id).1.toOption = none := by
  unfold failsFor at h
  cases hrules : (lib.rules id).1 with
  | ok found => exact absurd h (by simp [hrules])
  | error e => rfl

end Looking

/-- **A search is counted, and what it finds is kept.** Asking for the rules of a grammar changes
nothing else in the members of a library. -/
theorem getElem?_members_rules (lib : Library) (id j : Nat) :
    (lib.rules id).2.members[j]? = (lib.members[j]?).map fun m =>
      if id = j ∧ lib.looks id = true then m.looked (lib.rules id).1.toOption else m := by
  by_cases hlooks : lib.looks id = true
  · obtain ⟨m, hm, hnone, -⟩ := rules_of_looks hlooks
    have hmembers : (lib.resolve m.grammar m.grammar.patterns).2.members = lib.members := rfl
    simp only [hlooks, and_true]
    unfold rules
    simp only [hm, if_pos (Bool.and_eq_true_iff.1 hlooks).1, hnone]
    cases (lib.resolve m.grammar m.grammar.patterns).1 <;>
      simp only [modifyMember, hmembers, List.getElem?_modify] <;>
      by_cases hj : id = j
    · subst hj
      simp [hm, Member.looked, hnone, Except.toOption]
    · simp [hj]
    · subst hj
      simp [hm, Member.looked, Except.toOption]
    · simp [hj]
  · -- Without a search the library is the same: the grammar is not registered, or has its rules.
    have hsame : (lib.rules id).2 = lib := by
      cases hr : lib.isRegistered id with
      | false =>
        obtain ⟨scope, hrules⟩ := rules_of_not_isRegistered hr
        rw [hrules]
      | true =>
        have hkept : lib.kept? id ≠ none := fun hnone => hlooks (by simp [looks, hr, hnone])
        obtain ⟨rules, hrules⟩ := Option.ne_none_iff_exists'.1 hkept
        rw [rules_of_kept? hrules hr]
    simp [hsame, hlooks]

/-- What is noted of a grammar depends on its member only. -/
theorem record_congr {a b : Library} {id : Nat} (h : b.members[id]? = a.members[id]?) :
    b.record id = a.record id := by
  unfold record kept? resolutions
  rw [h]

/-- Looking for the rules of a grammar is noted of that grammar, with the rules that were found. -/
theorem record_rules (lib : Library) (asked id : Nat) :
    (lib.rules asked).2.record id =
      if asked = id ∧ lib.looks asked = true then
        ((lib.rules asked).1.toOption, lib.resolutions id + 1)
      else lib.record id := by
  have hmember := lib.getElem?_members_rules asked id
  by_cases h : asked = id ∧ lib.looks asked = true
  · obtain ⟨rfl, hlooks⟩ := h
    obtain ⟨m, hm, -⟩ := rules_of_looks hlooks
    simp [record, kept?, resolutions, hmember, hm, hlooks, Member.looked]
  · rw [if_neg h]
    simp only [if_neg h, Option.map_id'] at hmember
    exact record_congr hmember

/-- A grammar that is registered is a new member, of which nothing is known. -/
theorem record_register (lib : Library) (g : Grammar) (id : Nat) :
    (lib.register g).1.record id = lib.record id := by
  rcases Nat.lt_trichotomy id lib.members.length with hlt | rfl | hgt
  · exact record_congr (by rw [members_register, List.getElem?_append_left hlt])
  · unfold record kept? resolutions
    rw [members_register, List.getElem?_concat_length, List.getElem?_eq_none (Nat.le_refl _)]
    rfl
  · refine record_congr ?_
    rw [members_register, List.getElem?_eq_none (Nat.le_of_lt hgt),
      List.getElem?_eq_none (by simp only [List.length_append, List.length_singleton]; omega)]

/-! ## What calls do -/

/-- **What a call changes for a grammar**: if it looks for its rules, they are kept unless it fails,
and the search is counted. -/
theorem Call.record_after (c : Call) (lib : Library) (id : Nat) :
    (c.after lib).record id =
      if c.grammar? = some id ∧ lib.looks id = true then
        ((lib.rules id).1.toOption, lib.resolutions id + 1)
      else lib.record id := by
  cases hc : c.grammar? with
  | some asked =>
    have hsame : (c.after lib).record id = (lib.rules asked).2.record id :=
      record_congr (by rw [(Call.onlyNests hc lib).members])
    rw [hsame, record_rules]
    by_cases hasked : asked = id
    · subst hasked
      simp
    · simp [hasked]
  | none =>
    rw [if_neg (by simp)]
    cases c with
    | register g => exact lib.record_register g id
    | nestedRules r patterns =>
      exact record_congr (by rw [after, (onlyNests_nestedRules lib r patterns).members])
    | _ => exact absurd hc (by simp [grammar?])

/-- Rules of a region that are kept stay the same through a call. -/
theorem Call.lookup_after (c : Call) {lib : Library} {place : RegionPlace} {rules : List Rule}
    (h : lib.nested.lookup place = some rules) :
    (c.after lib).nested.lookup place = some rules := by
  cases hc : c.grammar? with
  | some asked =>
    refine (Call.onlyNests hc lib).nested place rules ?_
    rwa [(lib.rules_snd asked).2.1]
  | none =>
    cases c with
    | register g =>
      dsimp only [after]
      rwa [nested_register]
    | nestedRules r patterns => exact (onlyNests_nestedRules lib r patterns).nested place rules h
    | _ => exact absurd hc (by simp [grammar?])

section Calls

variable {lib : Library} {id : Nat} {rules : List Rule} {calls : List Call}

/-- **As long as no rules are found** none are kept, and each failed search is counted. -/
theorem record_afterCalls_of_unfound (hnone : lib.kept? id = none) (h : Unfound id lib calls) :
    (lib.afterCalls calls).record id =
      (none, lib.resolutions id + failedSearches id lib calls) := by
  induction calls generalizing lib with
  | nil => exact Prod.ext hnone rfl
  | cons c rest ih =>
    obtain ⟨hfirst, hrest⟩ := h
    -- Nothing is kept, so a call that asks for the rules looks for them, and it has to fail.
    have hafter : (c.after lib).record id = (none, lib.resolutions id
        + if c.grammar? = some id ∧ lib.failsFor id = true then 1 else 0) := by
      rw [c.record_after lib id]
      by_cases hc : c.grammar? = some id
      · rw [looks_eq_failsFor hnone (hfirst hc)]
        by_cases hfails : lib.failsFor id = true
        · simp [hc, hfails, toOption_of_failsFor hfails]
        · simp [hc, hfails, record, hnone]
      · simp [hc, record, hnone]
    rw [afterCalls_cons, ih (congrArg Prod.fst hafter) hrest, failedSearches, ← Nat.add_assoc]
    exact congrArg (fun count => (none, count + _)) (congrArg Prod.snd hafter)

/-- **Once rules are kept**, they stay the same and nothing is counted any more. -/
theorem record_afterCalls_of_kept (h : lib.kept? id = some rules) :
    (lib.afterCalls calls).record id = lib.record id := by
  induction calls generalizing lib with
  | nil => rfl
  | cons c rest ih =>
    have hafter : (c.after lib).record id = lib.record id := by
      rw [c.record_after lib id, if_neg (by simp [looks, h])]
    rw [afterCalls_cons, ih ((congrArg Prod.fst hafter).trans h), hafter]

end Calls

/-- What becomes of a library by calls, and by the steps in which a call goes over a line. -/
inductive Later : Library → Library → Prop
  | refl (lib : Library) : Later lib lib
  | call {a b : Library} (c : Call) (h : Later a b) : Later a (c.after b)
  | step {a b : Library} (p : Progress) (theme : Theme) (scope : ScopeName) (line : List Char)
    (h : Later a b) : Later a (p.step b theme scope line).2

/-- The rules of a region that are kept are kept for good. -/
theorem Later.lookup {a b : Library} (h : Later a b) {place : RegionPlace} {rules : List Rule}
    (hkept : a.nested.lookup place = some rules) : b.nested.lookup place = some rules := by
  induction h with
  | refl => exact hkept
  | call c _ ih => exact c.lookup_after ih
  | step p theme scope line _ ih => exact onlyNests_step.nested place rules ih

/-- The rules that are found for a region are kept. -/
theorem lookup_of_nestedRules {lib : Library} {r : Region} {patterns : List Pattern}
    {rules : List Rule} (h : (lib.nestedRules r patterns).1 = .ok rules) :
    (lib.nestedRules r patterns).2.nested.lookup r.place = some rules := by
  cases hplace : lib.nested.lookup r.place with
  | some old =>
    rw [nestedRules_of_lookup hplace] at h ⊢
    exact hplace.trans (congrArg some (Except.ok.inj h))
  | none =>
    unfold nestedRules at h ⊢
    rw [hplace] at h ⊢
    dsimp only at h ⊢
    cases hfind : lib.find? r.grammar.text with
    | none => simp [hfind] at h
    | some g =>
      rw [hfind] at h
      dsimp only at h ⊢
      split at h
      · obtain rfl := Except.ok.inj h
        exact List.lookup_cons_self
      · exact absurd h (by simp)

/-- A call fails at once if the rules that it asks for cannot be had. -/
theorem Call.failure?_of_rules {d : Call} {lib : Library} {id : Nat} {e : Failure}
    (hd : d.grammar? = some id) (h : lib.rules id = (.error e, lib)) : d.failure? lib = some e := by
  cases d with
  | register g => exact absurd hd (by simp [grammar?])
  | nestedRules r patterns => exact absurd hd (by simp [grammar?])
  | rules asked =>
    obtain rfl := Option.some.inj hd
    simp [failure?, h, failureOf]
  | firstLineState asked theme =>
    obtain rfl := Option.some.inj hd
    simp [failure?, Library.firstLineState, h, failureOf]
  | baseValues asked theme =>
    obtain rfl := Option.some.inj hd
    simp [failure?, Library.baseValues, Library.firstLineState, h, failureOf]
  | tokenizeLine asked theme line state =>
    obtain rfl := Option.some.inj hd
    simp [failure?, Library.tokenizeLine, h, failureOf]

/-- Only calls about registered grammars are not broken off. -/
theorem Call.Completes.isRegistered {d : Call} {lib : Library} {id : Nat} (h : d.Completes lib)
    (hd : d.grammar? = some id) : lib.isRegistered id = true := by
  cases hr : lib.isRegistered id with
  | true => rfl
  | false =>
    obtain ⟨scope, hrules⟩ := rules_of_not_isRegistered hr
    obtain ⟨cause, hcause⟩ := h _ (Call.failure?_of_rules hd hrules)
    exact absurd hcause (by simp)

section Found

variable {options : LibraryOptions} {before : List Call} {c : Call} {id : Nat} {rules : List Rule}

/-- What is known of a grammar after the first search that finds its rules. -/
theorem FirstFinds.record_after (h : FirstFinds (empty options) before c id rules) :
    (c.after ((empty options).afterCalls before)).record id =
      (some rules, 1 + failedSearches id (empty options) before) := by
  have hbefore := record_afterCalls_of_unfound rfl h.unfound
  have hnone : ((empty options).afterCalls before).kept? id = none := congrArg Prod.fst hbefore
  have hcount : ((empty options).afterCalls before).resolutions id =
      failedSearches id (empty options) before :=
    (congrArg Prod.snd hbefore).trans (Nat.zero_add _)
  have hlooks : ((empty options).afterCalls before).looks id = true := by
    simp [looks, isRegistered_of_rules h.found, hnone]
  rw [Call.record_after, if_pos ⟨h.asks, hlooks⟩, h.found, hcount, Nat.add_comm]
  rfl

end Found

/-- **Rules are found once.** From the empty library on, calls come in any number and order. Once a
call has found the rules of a grammar, each later call that is not broken off sees the same rules,
documents start with them, and the grammar was searched once more than the searches before failed.
Likewise the rules of a region are the same from when they were found, be it within a line. -/
theorem rules_frozen :
    (∀ options before c id rules, FirstFinds (empty options) before c id rules → ∀ more,
      let lib := (empty options).afterCalls (before ++ c :: more)
      lib.resolutions id = 1 + failedSearches id (empty options) before ∧
        (∀ d : Call, d.grammar? = some id → d.Completes lib → lib.rules id = (.ok rules, lib)) ∧
        ∀ theme state, (lib.firstLineState id theme).1 = .ok state →
          ∃ g, lib.grammar? id = some g ∧ state = .first theme g rules) ∧
    ∀ (lib : Library) (r : Region) patterns found, (lib.nestedRules r patterns).1 = .ok found →
      ∀ later, Later (lib.nestedRules r patterns).2 later →
        ∀ again, later.nestedRules r again = (.ok found, later) := by
  constructor
  · intro options before c id rules h more lib
    have hrecord : lib.record id = (some rules, 1 + failedSearches id (empty options) before) := by
      have hfound := h.record_after
      rw [← hfound, ← record_afterCalls_of_kept (congrArg Prod.fst hfound), ← afterCalls_cons,
        ← afterCalls_append]
    have hkept : lib.kept? id = some rules := congrArg Prod.fst hrecord
    refine ⟨congrArg Prod.snd hrecord, fun d hd hcompletes => ?_, fun theme state hstate => ?_⟩
    · exact rules_of_kept? hkept (hcompletes.isRegistered hd)
    · exact firstLineState_of_kept? hkept hstate
  · intro lib r patterns found h later hlater again
    exact nestedRules_of_lookup (hlater.lookup (lookup_of_nestedRules h)) again

/-- A grammar that can take the place of the right one of two; its include is of nothing. -/
def strayGrammar : Grammar :=
  (mirrorRecord "source.right" "source.gone" "stray" "s").compile.toOption.getD
    { scopeName := ⟨""⟩ }

/-- The grammar of brackets without its region. -/
def bareGrammar : Grammar := { bracketGrammar with patterns := [] }

/-- Calls that look for the rules of the left grammar in vain, as the right one comes later. -/
def earlyCalls : List Call := [.register leftGrammar, .rules 0, .register rightGrammar]

/-- None of the early calls finds the rules. -/
theorem unfound_earlyCalls : Unfound 0 (empty { missing := .error }) earlyCalls := by
  have hfails : (((Call.register leftGrammar).after (empty { missing := .error })).rules 0).1.isOk
      = false := by decide +kernel
  refine ⟨by simp [Call.grammar?], fun _ found hfound => ?_, by simp [Call.grammar?], trivial⟩
  rw [hfound] at hfails
  exact absurd hfails (by simp [Except.isOk, Except.toBool])

/-- The region of the grammar of brackets has rules. -/
theorem nestedRules_bracketLibrary :
    ∃ e ∈ bracketLibrary.regions, ∃ found,
      (bracketLibrary.nestedRules e.1 e.2).1 = .ok found ∧ found ≠ [] := by
  have hall : (bracketLibrary.regions.all fun e =>
      (bracketLibrary.nestedRules e.1 e.2).1.toOption.any fun found => !found.isEmpty) = true := by
    decide +kernel
  obtain ⟨e, he⟩ := List.exists_mem_of_ne_nil bracketLibrary.regions
    (List.ne_nil_of_length_pos (by decide +kernel))
  have hrules := List.all_eq_true.1 hall e he
  cases hfound : (bracketLibrary.nestedRules e.1 e.2).1 with
  | error e => exact absurd hrules (by simp [hfound, Except.toOption])
  | ok found => exact ⟨e, he, found, hfound, by simpa [hfound, Except.toOption] using hrules⟩

/-- What these calls leave, after a document was begun and the right grammar was replaced. -/
def replacedLibrary : Library :=
  (empty { missing := .error }).afterCalls
    (earlyCalls ++ .firstLineState 0 Theme.builtin :: [.register strayGrammar])

/-- The rules of the left grammar are kept when a grammar takes the place of the right one with
which there would be none. The rules inside of brackets are kept when the grammar of brackets is
replaced. -/
theorem rules_frozen_replaced :
    replacedLibrary.resolutions 0 = 2 ∧
      (∃ rules, replacedLibrary.rules 0 = (.ok rules, replacedLibrary) ∧
        rules.map Rule.scope = [some ⟨"left"⟩, some ⟨"right"⟩, some ⟨"left"⟩]) ∧
      (replacedLibrary.resolve (leftGrammar.place 0) leftGrammar.patterns).1.isOk = false ∧
      ∃ e ∈ bracketLibrary.regions, ∃ found,
        let lib := ((bracketLibrary.nestedRules e.1 e.2).2.register bareGrammar).1
        found ≠ [] ∧ lib.nestedRules e.1 e.2 = (.ok found, lib) := by
  have hok : (((empty { missing := .error }).afterCalls earlyCalls).rules 0).1.isOk = true := by
    decide +kernel
  obtain ⟨rules, hfound⟩ := exists_of_isOk hok
  obtain ⟨hcount, hsame, -⟩ := rules_frozen.1 { missing := .error } earlyCalls
    (.firstLineState 0 Theme.builtin) 0 rules ⟨rfl, unfound_earlyCalls, hfound⟩
    [.register strayGrammar]
  have hfails : failedSearches 0 (empty { missing := .error }) earlyCalls = 1 := by decide +kernel
  have hscopes : ((replacedLibrary.rules 0).1.toOption.getD []).map Rule.scope =
      [some ⟨"left"⟩, some ⟨"right"⟩, some ⟨"left"⟩] := by decide +kernel
  have hcompletes : (Call.rules 0).Completes replacedLibrary := by
    obtain ⟨again, hagain⟩ := exists_of_isOk
      (show (replacedLibrary.rules 0).1.isOk = true by decide +kernel)
    intro e he
    rw [Call.failure?, hagain] at he
    exact absurd he (by simp [failureOf])
  have hrules : replacedLibrary.rules 0 = (.ok rules, replacedLibrary) :=
    hsame (.rules 0) rfl hcompletes
  refine ⟨hcount.trans (by rw [hfails]), ⟨rules, hrules, ?_⟩, by decide +kernel, ?_⟩
  · rwa [hrules] at hscopes
  · obtain ⟨e, he, found, hfound, hne⟩ := nestedRules_bracketLibrary
    exact ⟨e, he, found, hne, rules_frozen.2 _ e.1 e.2 found hfound _
      (.call (.register bareGrammar) (.refl _)) e.2⟩

end Library

end ScopePaint
