/-!
# Work that may fail

What is done one after the other succeeds if each part does, and fails where the first part does.
`SameOutcome` says of two such works that they fail in the same way or both succeed, with results
that are related.
-/

set_option autoImplicit false

namespace ScopePaint

variable {ε α β γ δ : Type}

/-- A result of two steps comes of results of both. -/
theorem bind_eq_ok_iff {x : Except ε α} {f : α → Except ε β} {b : β} :
    (do let a ← x; f a) = .ok b ↔ ∃ a, x = .ok a ∧ f a = .ok b := by
  cases x <;> simp [bind, Except.bind]

/-- An error of two steps is one of the first or, behind its result, of the second. -/
theorem bind_eq_error_iff {x : Except ε α} {f : α → Except ε β} {e : ε} :
    (do let a ← x; f a) = .error e ↔ x = .error e ∨ ∃ a, x = .ok a ∧ f a = .error e := by
  cases x <;> simp [bind, Except.bind]

/-- A result that is changed afterwards is there if it was there before. -/
theorem map_eq_ok_iff {x : Except ε α} {f : α → β} {b : β} :
    x.map f = .ok b ↔ ∃ a, x = .ok a ∧ f a = b := by
  cases x <;> simp [Except.map]

/-- Changing a result afterwards keeps errors. -/
theorem map_eq_error_iff {x : Except ε α} {f : α → β} {e : ε} :
    x.map f = .error e ↔ x = .error e := by
  cases x <;> simp [Except.map]

/-- What is done with each member of a list succeeds if it succeeds with every one. -/
theorem mapM_eq_ok_iff {f : α → Except ε β} {xs : List α} {ys : List β} :
    xs.mapM f = .ok ys ↔ xs.map f = ys.map .ok := by
  induction xs generalizing ys with
  | nil => cases ys <;> simp [pure, Except.pure]
  | cons x xs ih =>
    rw [List.mapM_cons, bind_eq_ok_iff]
    simp only [bind_eq_ok_iff, ih, pure, Except.pure, Except.ok.injEq]
    constructor
    · rintro ⟨y, hy, rest, hrest, rfl⟩
      rw [List.map_cons, List.map_cons, hy, hrest]
    · intro h
      obtain ⟨y, rest, rfl, hy, hrest⟩ := List.map_eq_cons_iff.1 h.symm
      exact ⟨y, hy.symm, rest, hrest.symm, rfl⟩

/-- Results that are changed one by one are the changed list of results. -/
theorem mapM_map_results (f : α → Except ε β) (g : β → γ) (xs : List α) :
    xs.mapM (fun x => (f x).map g) = (xs.mapM f).map (List.map g) := by
  induction xs with
  | nil => rfl
  | cons x xs ih =>
    rw [List.mapM_cons, List.mapM_cons, ih]
    cases f x with
    | error e => rfl
    | ok y => cases xs.mapM f <;> rfl

/-- What is done with each member of a list fails with the failure of some member. -/
theorem exists_of_mapM_eq_error {f : α → Except ε β} {xs : List α} {e : ε}
    (h : xs.mapM f = .error e) : ∃ x ∈ xs, f x = .error e := by
  induction xs with
  | nil => exact absurd h (by simp [pure, Except.pure])
  | cons x xs ih =>
    rw [List.mapM_cons, bind_eq_error_iff] at h
    rcases h with hx | ⟨y, -, hrest⟩
    · exact ⟨x, List.mem_cons_self, hx⟩
    · rcases bind_eq_error_iff.1 hrest with hrest | ⟨ys, -, hys⟩
      · obtain ⟨x', hmem, hx'⟩ := ih hrest
        exact ⟨x', List.mem_cons_of_mem x hmem, hx'⟩
      · exact absurd hys (by simp [pure, Except.pure])

/-- What ends well has a result. -/
theorem exists_of_isOk {x : Except ε α} (h : x.isOk = true) : ∃ a, x = .ok a := by
  cases x with
  | ok a => exact ⟨a, rfl⟩
  | error e => exact absurd h (by simp [Except.isOk, Except.toBool])

/-- It is its own result. -/
theorem eq_ok_getD_of_isOk {x : Except ε α} (h : x.isOk = true) (a : α) :
    x = .ok (x.toOption.getD a) := by
  obtain ⟨b, rfl⟩ := exists_of_isOk h
  rfl

/-- Changing a result does not change whether there is one. -/
theorem isOk_map (x : Except ε α) (f : α → β) : (x.map f).isOk = x.isOk := by
  cases x <;> rfl

/-- Both fail for the same reason, or both succeed with related results. -/
inductive SameOutcome (r : α → β → Prop) : Except ε α → Except ε β → Prop
  | ok {a : α} {b : β} (h : r a b) : SameOutcome r (.ok a) (.ok b)
  | error (e : ε) : SameOutcome r (.error e) (.error e)

namespace SameOutcome

variable {r : α → β → Prop} {s : γ → δ → Prop} {x : Except ε α} {y : Except ε β}

/-- What goes on in the same way with related results has the same outcome. -/
theorem bind {f : α → Except ε γ} {g : β → Except ε δ} (h : SameOutcome r x y)
    (hfg : ∀ a b, r a b → SameOutcome s (f a) (g b)) :
    SameOutcome s (do let a ← x; f a) (do let b ← y; g b) := by
  cases h with
  | ok hab => exact hfg _ _ hab
  | error e => exact .error e

/-- The results that are related are those of the two works. -/
theorem results (h : SameOutcome r x y) :
    SameOutcome (fun a b => r a b ∧ x = .ok a ∧ y = .ok b) x y := by
  cases h with
  | ok hab => exact .ok ⟨hab, rfl, rfl⟩
  | error e => exact .error e

/-- Results that are related are related more loosely. -/
theorem imp {r' : α → β → Prop} (h : SameOutcome r x y) (hrr : ∀ a b, r a b → r' a b) :
    SameOutcome r' x y := by
  cases h with
  | ok hab => exact .ok (hrr _ _ hab)
  | error e => exact .error e

/-- Related results can be changed alike. -/
theorem map {f : α → γ} {g : β → δ} (h : SameOutcome r x y) (hfg : ∀ a b, r a b → s (f a) (g b)) :
    SameOutcome s (x.map f) (y.map g) := by
  cases h with
  | ok hab => exact .ok (hfg _ _ hab)
  | error e => exact .error e

end SameOutcome

end ScopePaint
