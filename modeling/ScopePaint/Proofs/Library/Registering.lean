import Mathlib.Data.List.Induction
import Mathlib.Logic.Equiv.Basic
import ScopePaint.Proofs.Library.Renumbering

/-!
# Registering in another order

If grammars with different scope names are registered one after the other, each gets the place at
which it was registered as its number, and its scope name stands for it (`Library.id?_ofGrammars`).
Another order gives the same grammars other numbers (`Library.exists_renumbered`); the scope names
in order stay the same (`Library.scopes_ofGrammars`), and so does the first of them whose grammar
has a property (`Library.Renumbered.firstWith`).
-/

set_option autoImplicit false

namespace ScopePaint

/-! ## Places in another order -/

/-- Numbers behind a first one that stays where it is. -/
def behindFirst (f : Nat → Nat) (n : Nat) : Nat := if n = 0 then 0 else f (n - 1) + 1

/-- The first number stays. -/
@[simp] theorem behindFirst_zero (f : Nat → Nat) : behindFirst f 0 = 0 := rfl

/-- All others are moved behind it. -/
@[simp] theorem behindFirst_succ (f : Nat → Nat) (n : Nat) :
    behindFirst f (n + 1) = f n + 1 := rfl

/-- Different numbers stay different. -/
theorem behindFirst_injective {f : Nat → Nat} (hf : Function.Injective f) :
    Function.Injective (behindFirst f) := by
  intro i j hij
  cases i with
  | zero =>
    cases j with
    | zero => rfl
    | succ j => exact absurd hij (by simp)
  | succ i =>
    cases j with
    | zero => exact absurd hij (by simp)
    | succ j =>
      have hsame : i = j := hf (Nat.succ_inj.1 hij)
      rw [hsame]

/-- Elements of a list have other places in another order. -/
theorem exists_renumbering {α : Type} {xs ys : List α} (h : xs.Perm ys) :
    ∃ f : Nat → Nat, Function.Injective f ∧ ∀ i, ys[f i]? = xs[i]? := by
  induction h with
  | nil => exact ⟨id, Function.injective_id, fun i => rfl⟩
  | @cons x xs ys _ ih =>
    obtain ⟨f, hf, hget⟩ := ih
    refine ⟨behindFirst f, behindFirst_injective hf, fun i => ?_⟩
    cases i with
    | zero => rfl
    | succ i => simpa using hget i
  | swap x y xs =>
    refine ⟨Equiv.swap 0 1, (Equiv.swap 0 1).injective, fun i => ?_⟩
    rcases i with - | - | i
    · rw [Equiv.swap_apply_left]
      rfl
    · rw [Equiv.swap_apply_right]
      rfl
    · rw [Equiv.swap_apply_of_ne_of_ne (by omega) (by omega)]
      rfl
  | trans _ _ ih ih' =>
    obtain ⟨f, hf, hget⟩ := ih
    obtain ⟨f', hf', hget'⟩ := ih'
    exact ⟨f' ∘ f, hf'.comp hf, fun i => (hget' (f i)).trans (hget i)⟩

namespace Library

/-! ## Registering one after the other -/

/-- Register grammars one after the other. -/
def registerAll (lib : Library) (gs : List Grammar) : Library :=
  gs.foldl (fun lib g => (lib.register g).1) lib

/-- The library in which some grammars were registered one after the other, and nothing else was
done. -/
def ofGrammars (options : LibraryOptions) (gs : List Grammar) : Library :=
  (Library.empty options).registerAll gs

section Registering

variable {options : LibraryOptions} {gs gs' : List Grammar} {g : Grammar} {scope : String} {i : Nat}

/-- The last grammar is registered behind all others. -/
theorem ofGrammars_concat (options : LibraryOptions) (gs : List Grammar) (g : Grammar) :
    ofGrammars options (gs ++ [g]) = ((ofGrammars options gs).register g).1 := by
  unfold ofGrammars registerAll
  rw [List.foldl_append]
  rfl

/-- Registering grammars builds a library. -/
theorem built_ofGrammars (options : LibraryOptions) (gs : List Grammar) :
    (ofGrammars options gs).Built := by
  induction gs using List.reverseRecOn with
  | nil => exact .empty options
  | append_singleton gs g ih =>
    rw [ofGrammars_concat]
    exact .register g ih

/-- It keeps the options. -/
@[simp] theorem options_ofGrammars (options : LibraryOptions) (gs : List Grammar) :
    (ofGrammars options gs).options = options := by
  induction gs using List.reverseRecOn with
  | nil => rfl
  | append_singleton gs g ih =>
    rw [ofGrammars_concat, register_fst]
    exact ih

/-- The members are the grammars, placed under the numbers of their places. -/
theorem members_ofGrammars (options : LibraryOptions) (gs : List Grammar) :
    (ofGrammars options gs).members =
      gs.zipIdx.map fun e => { grammar := e.1.place e.2 } := by
  induction gs using List.reverseRecOn with
  | nil => rfl
  | append_singleton gs g ih =>
    rw [ofGrammars_concat, members_register, ih, List.zipIdx_append, List.map_append]
    simp

/-- Nothing is kept before anything was asked for. -/
theorem unasked_ofGrammars (options : LibraryOptions) (gs : List Grammar) :
    (ofGrammars options gs).Unasked where
  rules := by
    intro m hm
    rw [members_ofGrammars] at hm
    obtain ⟨e, -, rfl⟩ := List.mem_map.1 hm
    rfl
  nested := by
    induction gs using List.reverseRecOn with
    | nil => rfl
    | append_singleton gs g ih => rw [ofGrammars_concat, nested_register, ih]

/-- Grammars have their places as numbers. -/
theorem grammar?_ofGrammars (options : LibraryOptions) (gs : List Grammar) (i : Nat) :
    (ofGrammars options gs).grammar? i = gs[i]?.map fun g => g.place i := by
  unfold grammar?
  rw [members_ofGrammars, List.getElem?_map, List.getElem?_zipIdx]
  cases gs[i]? <;> simp

/-- **Scope names that differ stand for their grammars.** -/
theorem id?_ofGrammars (h : (gs.map (·.scopeName.text)).Nodup) :
    (ofGrammars options gs).id? scope = some i ↔
      ∃ g, gs[i]? = some g ∧ g.scopeName.text = scope := by
  induction gs using List.reverseRecOn with
  | nil => simp [ofGrammars, registerAll, id?, empty]
  | append_singleton gs g ih =>
    rw [List.map_append, List.nodup_append] at h
    obtain ⟨hgs, -, hnew⟩ := h
    have hother : ∀ g' ∈ gs, g'.scopeName.text ≠ g.scopeName.text := fun g' hg' =>
      hnew _ (List.mem_map_of_mem hg') _ (by simp)
    rw [ofGrammars_concat]
    by_cases hscope : scope = g.scopeName.text
    · subst hscope
      have hlast : ((ofGrammars options gs).register g).1.id? g.scopeName.text =
          some gs.length := by
        unfold id?
        rw [names_register, members_ofGrammars, List.lookup_cons_self, List.length_map,
          List.length_zipIdx]
      rw [hlast, Option.some.injEq]
      constructor
      · rintro rfl
        exact ⟨g, by simp, rfl⟩
      · rintro ⟨g', hg', hname⟩
        by_contra hne
        have hlt : i < gs.length := by
          have := (List.getElem?_eq_some_iff.1 hg').1
          rw [List.length_append, List.length_singleton] at this
          omega
        rw [List.getElem?_append_left hlt] at hg'
        exact hother g' (List.mem_of_getElem? hg') hname
    · rw [id?_register_of_ne _ g hscope, ih hgs]
      constructor
      · rintro ⟨g', hg', hname⟩
        have hlt := (List.getElem?_eq_some_iff.1 hg').1
        exact ⟨g', by rw [List.getElem?_append_left hlt, hg'], hname⟩
      · rintro ⟨g', hg', hname⟩
        have hlt : i < gs.length := by
          have hle := (List.getElem?_eq_some_iff.1 hg').1
          rw [List.length_append, List.length_singleton] at hle
          by_contra hnot
          obtain rfl : i = gs.length := by omega
          rw [List.getElem?_concat_length] at hg'
          exact hscope (Option.some.inj hg' ▸ hname.symm)
        exact ⟨g', by rw [← hg', List.getElem?_append_left hlt], hname⟩

/-- The grammars of both libraries are the same, so that one of them stands for each name. -/
theorem isSome_id?_ofGrammars (h : (gs.map (·.scopeName.text)).Nodup) :
    ((ofGrammars options gs).id? scope).isSome ↔ scope ∈ gs.map (·.scopeName.text) := by
  rw [Option.isSome_iff_exists, List.mem_map]
  constructor
  · rintro ⟨i, hi⟩
    obtain ⟨g, hg, hname⟩ := (id?_ofGrammars h).1 hi
    exact ⟨g, List.mem_of_getElem? hg, hname⟩
  · rintro ⟨g, hg, hname⟩
    obtain ⟨i, hi⟩ := List.mem_iff_getElem?.1 hg
    exact ⟨i, (id?_ofGrammars h).2 ⟨g, hi, hname⟩⟩

/-- What does not depend on the places of regions adds up to the same in any order. -/
theorem sum_members_ofGrammars (options : LibraryOptions) (hperm : gs.Perm gs')
    (size : Grammar → Nat) (hsize : ∀ g i, size (g.place i) = size g) :
    ((ofGrammars options gs').members.map fun m => size m.grammar).foldr (· + ·) 0 =
      ((ofGrammars options gs).members.map fun m => size m.grammar).foldr (· + ·) 0 := by
  have hmap : ∀ gs : List Grammar,
      ((ofGrammars options gs).members.map fun m => size m.grammar) = gs.map size := by
    intro gs
    rw [members_ofGrammars, List.map_map, ← List.zipIdx_map_fst 0 gs, List.map_map,
      List.zipIdx_map_fst]
    exact List.map_congr_left fun e _ => hsize e.1 e.2
  rw [hmap, hmap]
  exact ((hperm.map size).foldr_eq 0).symm

/-- **In another order the grammars have other numbers**, and that is all. -/
theorem exists_renumbered (options : LibraryOptions) (hperm : gs.Perm gs')
    (h : (gs.map (·.scopeName.text)).Nodup) :
    ∃ f, Renumbered f (ofGrammars options gs) (ofGrammars options gs') ∧
      ∀ i, gs'[f i]? = gs[i]? := by
  obtain ⟨f, hf, hget⟩ := exists_renumbering hperm
  have h' : (gs'.map (·.scopeName.text)).Nodup := (hperm.map _).nodup h
  refine ⟨f, ⟨hf, ?_, fun scope => ?_, fun i => ?_, fun g => ?_, ?_⟩, hget⟩
  · rw [options_ofGrammars, options_ofGrammars]
  · cases hid : (ofGrammars options gs).id? scope with
    | some i =>
      obtain ⟨g, hg, hname⟩ := (id?_ofGrammars h).1 hid
      exact (id?_ofGrammars h').2 ⟨g, (hget i).trans hg, hname⟩
    | none =>
      have hnone : ¬ ((ofGrammars options gs).id? scope).isSome := by simp [hid]
      rw [isSome_id?_ofGrammars h, (hperm.map _).mem_iff, ← isSome_id?_ofGrammars h'] at hnone
      rw [Option.map_none, ← Option.not_isSome_iff_eq_none]
      exact hnone
  · rw [grammar?_ofGrammars, grammar?_ofGrammars, hget, Option.map_map]
    congr 1
    funext g
    exact Grammar.place_renumber f g i
  · unfold keyCount
    rw [Grammar.length_repository_renumber, sum_members_ofGrammars options hperm
      (fun g => g.repository.length + 1) fun g i => by rw [Grammar.length_repository_place]]
  · exact sum_members_ofGrammars options hperm Grammar.regionCount Grammar.regionCount_place

/-! ## Choosing a grammar -/

/-- The names of registered grammars are listed from the last one to the first. -/
theorem map_names_ofGrammars (options : LibraryOptions) (h : (gs.map (·.scopeName.text)).Nodup) :
    (ofGrammars options gs).names.map (·.1) = (gs.map (·.scopeName.text)).reverse := by
  induction gs using List.reverseRecOn with
  | nil => rfl
  | append_singleton gs g ih =>
    rw [List.map_append, List.nodup_append] at h
    obtain ⟨hgs, -, hnew⟩ := h
    have hkept : ((ofGrammars options gs).names.filter fun entry =>
        decide (entry.1 ≠ g.scopeName.text)) = (ofGrammars options gs).names := by
      refine List.filter_eq_self.2 fun entry hentry => decide_eq_true ?_
      have hmem := List.mem_map_of_mem (f := fun entry : String × Nat => entry.1) hentry
      rw [ih hgs, List.mem_reverse] at hmem
      exact hnew _ hmem _ (by simp)
    rw [ofGrammars_concat, names_register, hkept, List.map_cons, ih hgs, List.map_append,
      List.reverse_append]
    rfl

/-- **The scope names in order do not depend on the order of registering.** -/
theorem scopes_ofGrammars (options : LibraryOptions) (hperm : gs.Perm gs')
    (h : (gs.map (·.scopeName.text)).Nodup) :
    (ofGrammars options gs').scopes = (ofGrammars options gs).scopes := by
  have h' : (gs'.map (·.scopeName.text)).Nodup := (hperm.map _).nodup h
  have hsorted : ∀ names : List String,
      (names.mergeSort fun a b => decide (a ≤ b)).Pairwise fun a b => decide (a ≤ b) = true := by
    refine List.pairwise_mergeSort (fun a b c hab hbc => ?_) fun a b => ?_
    · exact decide_eq_true (String.le_trans (of_decide_eq_true hab) (of_decide_eq_true hbc))
    · simpa using String.le_total a b
  unfold scopes
  rw [map_names_ofGrammars options h, map_names_ofGrammars options h']
  refine List.Perm.eq_of_pairwise (fun a b _ _ hab hba => ?_) (hsorted _) (hsorted _) ?_
  · exact String.le_antisymm (of_decide_eq_true hab) (of_decide_eq_true hba)
  · have hnames := (List.reverse_perm (gs'.map (·.scopeName.text))).trans
      ((hperm.map (·.scopeName.text)).symm.trans (List.reverse_perm _).symm)
    exact ((List.mergeSort_perm _ _).trans hnames).trans (List.mergeSort_perm _ _).symm

/-- The first scope name in order whose grammar has a property that does not depend on numbers. -/
theorem Renumbered.firstWith {m : Type → Type} [Monad m] {f : Nat → Nat} {a b : Library}
    (h : Renumbered f a b) (hscopes : b.scopes = a.scopes) {p : Grammar → m Bool}
    (hp : ∀ g, p (g.renumber f) = p g) : b.firstWith p = a.firstWith p := by
  unfold Library.firstWith
  rw [hscopes]
  congr 1
  funext scope
  rw [h.find?]
  cases a.find? scope with
  | none => rfl
  | some g => exact hp g

end Registering

end Library

end ScopePaint
