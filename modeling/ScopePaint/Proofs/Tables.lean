import Mathlib.Data.List.Basic

/-!
# Looking things up in tables

Tables are lists of keys with what belongs to them, of which the first entry for a key counts.
-/

set_option autoImplicit false

namespace ScopePaint

variable {α β : Type} [DecidableEq α]

/-- Other keys are not affected when one of them is taken out. -/
theorem lookup_filter_ne {key taken : α} (hne : key ≠ taken) (table : List (α × β)) :
    (table.filter fun entry => entry.1 ≠ taken).lookup key = table.lookup key := by
  induction table with
  | nil => rfl
  | cons entry table ih =>
    by_cases he : entry.1 = taken
    · have hkey : (key == entry.1) = false := by simpa [he] using hne
      rw [List.filter_cons_of_neg (by simpa using he), ih, List.lookup_cons, hkey]
    · rw [List.filter_cons_of_pos (by simpa using he), List.lookup_cons, List.lookup_cons, ih]

/-- What belongs to a key is changed when all of the table is. -/
theorem lookup_map_snd {γ : Type} (f : β → γ) (key : α) (table : List (α × β)) :
    (table.map fun entry => (entry.1, f entry.2)).lookup key = (table.lookup key).map f := by
  induction table with
  | nil => rfl
  | cons entry table ih =>
    rw [List.map_cons, List.lookup_cons, List.lookup_cons, ih]
    cases key == entry.1 <;> rfl

end ScopePaint
