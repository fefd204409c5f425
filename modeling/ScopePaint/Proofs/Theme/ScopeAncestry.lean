import Mathlib.Data.List.Infix
import ScopePaint.Proofs.Text.Lines
import ScopePaint.ScopeName

/-!
# Scopes above others, by their texts

Whether a scope is above another one is asked of their components, and can be read off their texts:
the text of the scope above comes first in the other one and ends in front of a dot there
(`ScopeName.isAncestorOrEqual_iff`). This comes out of the same statement about any text that is cut
at a separator (`Text.splitAt_prefix_iff`), by looking at both texts character by character.

Putting the dots back between the components of a scope gives its text (`Text.join_split`), so being
the same scope or above it is a partial order (`ScopeName.ancestry_of_texts`).
-/

set_option autoImplicit false

namespace ScopePaint

namespace Text

variable {separator : Char}

/-- **The pieces of a text come first among those of another** if and only if it is the other text or
a separator follows it there. -/
theorem splitAt_prefix_iff {xs ys : List Char} :
    splitAt separator xs <+: splitAt separator ys ↔ ys = xs ∨ xs ++ [separator] <+: ys := by
  induction xs generalizing ys with
  | nil =>
    cases ys with
    | nil => simp [splitAt]
    | cons y ys =>
      obtain ⟨q, qs, -, hcons⟩ := splitAt_cons separator y ys
      rw [hcons, splitAt]
      by_cases hy : y = separator
      · simp [hy]
      · simp [hy, Ne.symm hy]
  | cons x xs ih =>
    obtain ⟨p, ps, hxs, hx⟩ := splitAt_cons separator x xs
    cases ys with
    | nil =>
      rw [hx, splitAt]
      split <;> simp
    | cons y ys =>
      obtain ⟨q, qs, hys, hy⟩ := splitAt_cons separator y ys
      have hrest := @ih ys
      rw [hxs, hys] at hrest
      rw [hx, hy, List.cons_append, List.cons_prefix_cons, List.cons.injEq]
      by_cases hxs : x = separator
      · rw [if_pos hxs, hxs]
        by_cases hys : y = separator
        · -- Both texts go on behind a separator.
          rw [if_pos hys, hys, List.cons_prefix_cons, hrest]
          simp
        · rw [if_neg hys, List.cons_prefix_cons]
          simp [hys, Ne.symm hys]
      · rw [if_neg hxs]
        by_cases hys : y = separator
        · rw [if_pos hys, hys, List.cons_prefix_cons]
          simp [hxs, Ne.symm hxs]
        · -- Both first pieces go on.
          rw [if_neg hys, List.cons_prefix_cons, List.cons.injEq, and_assoc, ← List.cons_prefix_cons,
            hrest, eq_comm (a := y)]
          tauto

/-- Splitting a text is splitting its characters. -/
theorem toList_split (separator : Char) (s : String) :
    (split separator s).map String.toList = splitAt separator s.toList := by
  rw [split, List.map_map]
  refine (List.map_congr_left fun piece _ => ?_).trans (List.map_id _)
  exact String.toList_ofList

/-- Pieces begin those of another text if the text does, up to its end or a separator. -/
theorem split_prefix_iff {s t : String} :
    split separator s <+: split separator t ↔
      t = s ∨ ∃ rest, t = s ++ String.singleton separator ++ rest := by
  have hlists : split separator s <+: split separator t ↔
      splitAt separator s.toList <+: splitAt separator t.toList := by
    rw [← toList_split, ← toList_split]
    exact (List.prefix_map_iff_of_injective fun _ _ => String.toList_injective).symm
  rw [hlists, splitAt_prefix_iff, String.toList_inj]
  refine or_congr Iff.rfl ⟨?_, ?_⟩
  · rintro ⟨rest, hrest⟩
    refine ⟨String.ofList rest, ?_⟩
    rw [← String.toList_inj]
    simpa using hrest.symm
  · rintro ⟨rest, rfl⟩
    exact ⟨rest.toList, by simp⟩

/-- A separator stands between a piece and the others. -/
theorem join_cons_of_ne_nil (separator piece : String) {rest : List String} (h : rest ≠ []) :
    join separator (piece :: rest) = piece ++ separator ++ join separator rest := by
  cases rest with
  | nil => exact absurd rfl h
  | cons next rest => rfl

/-- A character in front of the first piece is in front of the text. -/
theorem toList_join_cons (separator : String) (c : Char) (piece : List Char)
    (rest : List String) :
    (join separator (String.ofList (c :: piece) :: rest)).toList =
      c :: (join separator (String.ofList piece :: rest)).toList := by
  cases rest with
  | nil => simp [join]
  | cons next rest => simp [join]

/-- **Putting separators back** between the pieces of a text gives the text. -/
theorem join_split (separator : Char) (s : String) :
    join (String.singleton separator) (split separator s) = s := by
  have hall : ∀ cs, (join (String.singleton separator)
      ((splitAt separator cs).map String.ofList)).toList = cs := by
    intro cs
    induction cs with
    | nil => rfl
    | cons c rest ih =>
      obtain ⟨piece, pieces, hrest, hcons⟩ := splitAt_cons separator c rest
      rw [hrest] at ih
      rw [hcons]
      by_cases hc : c = separator
      · rw [if_pos hc, List.map_cons, join_cons_of_ne_nil _ _ (by simp), String.toList_append, ih, hc]
        simp
      · rw [if_neg hc, List.map_cons, toList_join_cons, ← List.map_cons, ih]
  rw [← String.toList_inj, split]
  exact hall s.toList

end Text

namespace ScopeName

variable {s t u : ScopeName}

/-- A scope is above another one if its components begin those of the other. -/
theorem isAncestorOrEqual_iff_components :
    s.isAncestorOrEqual t = true ↔ s.components <+: t.components :=
  List.isPrefixOf_iff_prefix

/-- Dots between the components of a scope give its text. -/
theorem join_components (s : ScopeName) : Text.join "." s.components = s.text :=
  Text.join_split '.' s.text

/-- Names with the same components are the same. -/
theorem eq_of_components_eq (h : s.components = t.components) : s = t := by
  have htext : s.text = t.text := by
    rw [← join_components, h, join_components]
  cases s
  cases t
  exact congrArg mk htext

/-- **A scope is above another one** if its text comes first there and a dot follows. -/
theorem isAncestorOrEqual_iff : s.isAncestorOrEqual t = true ↔
    t.text = s.text ∨ ∃ rest, t.text = s.text ++ "." ++ rest := by
  rw [isAncestorOrEqual_iff_components]
  exact Text.split_prefix_iff

/-- A component that is empty counts, and one that is begun does not. -/
example : (⟨"a."⟩ : ScopeName).isAncestorOrEqual ⟨"a..b"⟩ = true ∧
    (⟨"a.b"⟩ : ScopeName).isAncestorOrEqual ⟨"a.bc"⟩ = false := by decide +kernel

/-- **Scopes above others, by their texts.** A scope is another one or above it if and only if their
texts are the same, or the other text is its own with a dot and something behind. This is a partial
order, and the components of a scope with dots between them are its text. -/
theorem ancestry_of_texts :
    (∀ a b : String, (⟨a⟩ : ScopeName).isAncestorOrEqual ⟨b⟩ = true ↔
      b = a ∨ ∃ rest, b = a ++ "." ++ rest) ∧
    (∀ s : ScopeName, s.isAncestorOrEqual s = true) ∧
    (∀ s t u : ScopeName, s.isAncestorOrEqual t = true → t.isAncestorOrEqual u = true →
      s.isAncestorOrEqual u = true) ∧
    (∀ s t : ScopeName, s.isAncestorOrEqual t = true → t.isAncestorOrEqual s = true → s = t) ∧
    ∀ s : ScopeName, Text.join "." s.components = s.text := by
  refine ⟨fun a b => isAncestorOrEqual_iff, fun s => ?_, fun s t u => ?_, fun s t => ?_,
    join_components⟩
  · rw [isAncestorOrEqual_iff_components]
  · simp only [isAncestorOrEqual_iff_components]
    intro hst htu
    exact hst.trans htu
  · simp only [isAncestorOrEqual_iff_components]
    intro hst hts
    exact eq_of_components_eq (hst.eq_of_length_le hts.length_le)

end ScopeName

end ScopePaint
