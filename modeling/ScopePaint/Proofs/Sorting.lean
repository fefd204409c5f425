import Mathlib.Data.List.Nodup

/-!
# Sorting that keeps the order of equals

Sorting by merging leaves elements of which neither is before the other in the order in which they
came. So a list that is in order by a second relation from the start is in order by both of them
afterwards, the second one deciding where the first one does not (`pairwise_mergeSort_stable`).
-/

set_option autoImplicit false

namespace ScopePaint

variable {α : Type}

/-- The places of the elements of a list are in ascending order. -/
theorem pairwise_zipIdx (l : List α) (n : Nat) : (l.zipIdx n).Pairwise fun a b => a.2 < b.2 := by
  have h : ((l.zipIdx n).map (·.2)).Pairwise (· < ·) := by
    rw [List.zipIdx_map_snd]
    exact List.pairwise_lt_range'
  exact List.pairwise_map.1 h

/-- **Sorting keeps the order of equals.** -/
theorem pairwise_mergeSort_stable (le : α → α → Bool)
    (htrans : ∀ a b c, le a b = true → le b c = true → le a c = true)
    (htotal : ∀ a b, (le a b || le b a) = true) {r : α → α → Prop} {l : List α}
    (h : l.Pairwise r) :
    (l.mergeSort le).Pairwise fun a b => le a b = true ∧ (le b a = true → r a b) := by
  -- Elements are sorted together with their places, which decide between equals.
  have hsorted := List.pairwise_mergeSort (List.zipIdxLE_trans htrans) (List.zipIdxLE_total htotal)
    l.zipIdx
  have hplaces : (l.zipIdx.mergeSort (List.zipIdxLE le)).Pairwise fun a b => a.2 ≠ b.2 :=
    (List.mergeSort_perm _ _).symm.pairwise ((pairwise_zipIdx l 0).imp fun hlt => Nat.ne_of_lt hlt)
      fun hne => hne.symm
  rw [← List.mergeSort_zipIdx, List.pairwise_map]
  refine (hsorted.and hplaces).imp_of_mem ?_
  rintro ⟨a, i⟩ ⟨b, j⟩ ha hb ⟨hle, hne⟩
  obtain ⟨hi, hfirst⟩ :=
    List.getElem?_eq_some_iff.1 (List.mem_zipIdx_iff_getElem?.1 (List.mem_mergeSort.1 ha))
  obtain ⟨hj, hsecond⟩ :=
    List.getElem?_eq_some_iff.1 (List.mem_zipIdx_iff_getElem?.1 (List.mem_mergeSort.1 hb))
  dsimp only at hi hfirst hj hsecond hne ⊢
  have hab : le a b = true := by
    by_contra hnot
    simp [List.zipIdxLE, hnot] at hle
  refine ⟨hab, fun hba => ?_⟩
  have hij : i ≤ j := by simpa [List.zipIdxLE, hab, hba] using hle
  rw [← hfirst, ← hsecond]
  exact List.pairwise_iff_getElem.1 h i j hi hj (by omega)

end ScopePaint
