import Mathlib.Tactic.IntervalCases
import ScopePaint.Proofs.Grammar.References
import ScopePaint.Proofs.Regex.LiteralSearch

/-!
# Captured texts in the ends of regions

A text that a group captured comes from the document, so it may hold any characters, and the end of a
region that refers to the group is compiled with the text in it. Nothing in the text counts as
syntax: an end that is a reference is found where the text stands next, and an end that is a
reference between the anchors of a line matches a line that is the text
(`EndPattern.reference_found_as_text`). The first is what ends a raw string, the second what ends a
here-document.
-/

set_option autoImplicit false

namespace ScopePaint.EndPattern

open Text (IsBoundary byteLength slice?)

variable {group : Nat}

/-- The digits from 1 to 9 are numbers of groups. -/
theorem groupOf?_digitChar (hlow : 1 ≤ group) (hhigh : group ≤ 9) :
    groupOf? (Nat.digitChar group) = some group := by
  interval_cases group <;> rfl

/-- **Captured text is never syntax.** Let a group from 1 to 9 have captured a text. An end that is a
reference to the group resolves to an expression that is found where the text stands and nowhere else.
An end that is such a reference between the anchors of a line resolves to an expression that matches a
line without line breaks if and only if the line is the text. No search for either is given up. -/
theorem reference_found_as_text (line : List Char) (opening : Match) (hlow : 1 ≤ group)
    (hhigh : group ≤ 9) :
    (compile (String.ofList ['\\', Nat.digitChar group]) =
        .ok (.backReferencing (String.ofList ['\\', Nat.digitChar group])) ∧
      ∃ regex, (backReferencing (String.ofList ['\\', Nat.digitChar group])).resolve line opening =
          .ok regex ∧
        regex.Finds (captured line opening group)) ∧
    compile (String.ofList ['^', '\\', Nat.digitChar group, '$']) =
        .ok (.backReferencing (String.ofList ['^', '\\', Nat.digitChar group, '$'])) ∧
      ∃ regex, (backReferencing (String.ofList ['^', '\\', Nat.digitChar group, '$'])).resolve line
          opening = .ok regex ∧
        ∀ cs, '\n' ∉ cs →
          regex.isMatch cs = .ok (decide (cs = captured line opening group)) := by
  have hdigit : groupOf? (Nat.digitChar group) = some group := groupOf?_digitChar hlow hhigh
  have halone : compile (String.ofList ['\\', Nat.digitChar group]) =
      .ok (.backReferencing (String.ofList ['\\', Nat.digitChar group])) := by
    rw [compile_eq_backReferencing_iff, String.toList_ofList]
    simp [isBackReferencing, hdigit]
  have hanchored : compile (String.ofList ['^', '\\', Nat.digitChar group, '$']) =
      .ok (.backReferencing (String.ofList ['^', '\\', Nat.digitChar group, '$'])) := by
    rw [compile_eq_backReferencing_iff, String.toList_ofList]
    simp [isBackReferencing, hdigit]
  have htext : (backReferencing (String.ofList ['\\', Nat.digitChar group])).resolve line opening =
      .ok ⟨String.ofList (escape (captured line opening group)),
        Regex.literalProgram (captured line opening group)⟩ := by
    rw [resolve_of_compile halone, String.toList_ofList, substitute_reference hdigit, substitute,
      List.append_nil, Regex.compile_escape]
  have hline : (backReferencing (String.ofList ['^', '\\', Nat.digitChar group, '$'])).resolve line
      opening = .ok ⟨String.ofList ('^' :: (escape (captured line opening group) ++ ['$'])),
        Regex.lineProgram (captured line opening group)⟩ := by
    have hcaret : '^' = '\\' → ∀ d ∈ ['\\', Nat.digitChar group, '$'].head?, groupOf? d = none :=
      fun h => absurd h (by decide)
    rw [resolve_of_compile hanchored, String.toList_ofList, substitute_cons hcaret,
      substitute_reference hdigit, substitute, Regex.compile_line_escape]
  refine ⟨⟨halone, _, htext, Regex.finds_of_literalProgram rfl⟩, hanchored, _, hline, ?_⟩
  intro cs hcs
  exact Regex.isMatch_lineProgram rfl hcs

/-- The end of a here-document whose name holds a full stop is that name. -/
theorem reference_found_as_text_dotted_name :
    captured "<<a.b".toList ⟨⟨0, 5⟩, [some ⟨2, 5⟩]⟩ 1 = "a.b".toList ∧
    (∃ regex, (backReferencing "\\1").resolve "<<a.b".toList ⟨⟨0, 5⟩, [some ⟨2, 5⟩]⟩ = .ok regex ∧
      regex.search "a.b;".toList 0 = .ok (some ⟨⟨0, 3⟩, []⟩)) ∧
    ∃ regex, (backReferencing "^\\1$").resolve "<<a.b".toList ⟨⟨0, 5⟩, [some ⟨2, 5⟩]⟩ = .ok regex ∧
      regex.isMatch "a.b".toList = .ok true ∧ regex.isMatch "axb".toList = .ok false := by
  have hname : captured "<<a.b".toList ⟨⟨0, 5⟩, [some ⟨2, 5⟩]⟩ 1 = "a.b".toList := by
    decide +kernel
  obtain ⟨⟨-, regex, halone, hsearch⟩, -, regex', hanchored, hmatch⟩ :=
    reference_found_as_text "<<a.b".toList ⟨⟨0, 5⟩, [some ⟨2, 5⟩]⟩ (Nat.le_refl 1) (by decide)
  rw [hname] at hsearch hmatch
  refine ⟨hname, ⟨regex, halone, ?_⟩, regex', hanchored, ?_, ?_⟩
  · refine (hsearch "a.b;".toList 0 (by simp)).1 0 ⟨⟨Nat.le_refl 0, ?_⟩, fun q _ => Nat.zero_le q⟩
    decide +kernel
  · rw [hmatch _ (by decide), decide_eq_true rfl]
  · rw [hmatch _ (by decide), decide_eq_false (by decide)]

end ScopePaint.EndPattern
