import ScopePaint.Proofs.Outcome
import ScopePaint.Proofs.Text.Boundary
import ScopePaint.Regex.Search

/-!
# Where matches lie

A match that a search from an offset finds begins at the offset or behind it, ends where it begins
or behind that, and does not reach behind the text. The match and all of its groups lie between
characters (`Regex.search_fits`). This is all that cutting lines into tokens needs to know of
regular expressions, besides that a search is a function of the expression, the text and the offset.
-/

set_option autoImplicit false

namespace ScopePaint

/-- What is promised of a match that is looked for from an offset in a text. -/
structure Match.Fits (m : Match) (cs : List Char) (offset : Nat) : Prop where
  after : offset ≤ m.range.start
  ordered : m.range.start ≤ m.range.stop
  inside : m.range.stop ≤ Text.byteLength cs
  start : Text.IsBoundary cs m.range.start
  stop : Text.IsBoundary cs m.range.stop
  groups : ∀ i range, m.group i = some range →
    Text.IsBoundary cs range.start ∧ Text.IsBoundary cs range.stop

namespace Regex

/-- Groups are places given by character counts, so they lie between characters. -/
theorem isBoundary_of_matchOf {cs : List Char} {origin start count : Nat} {s : State} {m : Match}
    (h : matchOf cs origin start count s = some m) (i : Nat) (range : Text.Span)
    (hi : m.group i = some range) :
    Text.IsBoundary cs range.start ∧ Text.IsBoundary cs range.stop := by
  simp only [matchOf] at h
  split at h
  · obtain rfl := Option.some.inj h
    unfold Match.group at hi
    split at hi
    · obtain rfl := Option.some.inj hi
      exact ⟨Text.isBoundary_byteOffset _ _, Text.isBoundary_byteOffset _ _⟩
    · simp only [List.getElem?_map, Option.join_eq_some_iff, Option.map_eq_some_iff] at hi
      obtain ⟨j, -, hj⟩ := hi
      split at hj
      · obtain rfl := Option.some.inj hj
        exact ⟨Text.isBoundary_byteOffset _ _, Text.isBoundary_byteOffset _ _⟩
      · exact absurd hj (by simp)
  · exact absurd h (by simp)

/-- A run from an index at or behind the origin of a search gives a match that lies behind the
origin. -/
theorem matchOf_fits {cs : List Char} {origin start count : Nat} {s : State} {m : Match}
    (hstart : origin ≤ start) (h : matchOf cs origin start count s = some m) :
    m.Fits cs (Text.byteOffset cs origin) := by
  have hgroups := isBoundary_of_matchOf h
  have hwhole := hgroups 0 m.range rfl
  simp only [matchOf] at h
  split at h
  · rename_i hle
    obtain rfl := Option.some.inj h
    -- The start is where the run began, or where the expression moved it to within bounds.
    have hfirst : origin ≤ (if origin ≤ s.kept then min s.kept s.cursor.index else start) ∧
        (if origin ≤ s.kept then min s.kept s.cursor.index else start) ≤ s.cursor.index := by
      split <;> omega
    exact
      { after := Text.byteOffset_mono cs hfirst.1
        ordered := Text.byteOffset_mono cs hfirst.2
        inside := Text.byteOffset_le _ _
        start := hwhole.1
        stop := hwhole.2
        groups := hgroups }
  · exact absurd h (by simp)

/-- The match of an attempt from a place at or behind the origin lies behind the origin. -/
theorem attempt_fits {p : Program} {cs : List Char} {origin : Nat} {c : Cursor} {m : Match}
    (hindex : origin ≤ c.index) (h : attempt p cs origin c = .ok (some m)) :
    m.Fits cs (Text.byteOffset cs origin) := by
  obtain ⟨found, -, hfound⟩ := map_eq_ok_iff.1 h
  obtain ⟨s, -, hs⟩ := Option.bind_eq_some_iff.1 hfound
  exact matchOf_fits hindex hs

/-- Trying one place after another keeps behind the origin. -/
theorem searchFrom_fits {p : Program} {cs : List Char} {origin : Nat} {before : List Char}
    {index : Nat} {after : List Char} {m : Match} (hindex : origin ≤ index)
    (h : searchFrom p cs origin before index after = .ok (some m)) :
    m.Fits cs (Text.byteOffset cs origin) := by
  induction after generalizing before index with
  | nil => exact attempt_fits hindex h
  | cons c after ih =>
    rw [searchFrom] at h
    split at h
    · exact ih (by omega) h
    · exact attempt_fits hindex h

/-- **A match lies between the offset it was looked for from and the end of the text**, and its
offsets are boundaries. -/
theorem search_fits {r : Regex} {cs : List Char} {offset : Nat} {m : Match}
    (h : r.search cs offset = .ok (some m)) : m.Fits cs offset := by
  unfold search at h
  split at h
  · exact absurd h (by simp)
  · rename_i before after hsplit
    obtain ⟨rfl, rfl⟩ := Text.splitAtByte?_eq_some_iff.1 hsplit
    have hfits := searchFrom_fits (Nat.le_refl _) h
    rwa [Text.byteOffset_append] at hfits

end Regex

end ScopePaint
