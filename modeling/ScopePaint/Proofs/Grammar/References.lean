import Mathlib.Data.List.Chain
import Mathlib.Tactic.ByContra
import Mathlib.Tactic.Push
import ScopePaint.Grammar.EndPattern

/-!
# References in the ends of regions

A pattern is read in parts: a backslash takes the character behind it along, and every other character
stands alone (`EndPattern.parts`). A reference is a backslash with a digit from 1 to 9. The end of a
region is not read in this way: it is looked through for a backslash in front of such a digit,
whatever stands in front of the backslash. Part by part both come to the same
(`EndPattern.substitute_part`), unless the part is an escaped backslash and the next one is such a
digit. Where that happens nowhere, exactly the references are replaced; where it does happen, the
second half of the escaped backslash is taken for the start of a reference
(`EndPattern.references_resolved`).
-/

set_option autoImplicit false

namespace ScopePaint

/-- A part of a pattern: a backslash with the character behind it, or a character alone. -/
inductive SourcePart where
  | escape (c : Char)
  | single (c : Char)
  deriving DecidableEq, Repr

namespace SourcePart

/-- The part as it was written. -/
def chars : SourcePart → List Char
  | escape c => ['\\', c]
  | single c => [c]

/-- The group that a part refers to. -/
def group? : SourcePart → Option Nat
  | escape c => EndPattern.groupOf? c
  | single _ => none

/-- The part with the text of a group in its place, if it refers to one. -/
def expand (text : Nat → List Char) (part : SourcePart) : List Char :=
  match part.group? with
  | some group => text group
  | none => part.chars

/-- Two neighbours are not an escaped backslash and a digit that a reference could have. -/
def Apart : SourcePart → SourcePart → Prop
  | escape c, single d => c = '\\' → EndPattern.groupOf? d = none
  | _, _ => True

instance : DecidableRel Apart
  | escape c, single d => inferInstanceAs (Decidable (c = '\\' → EndPattern.groupOf? d = none))
  | escape _, escape _ => isTrue trivial
  | single _, _ => isTrue trivial

end SourcePart

namespace EndPattern

variable {text : Nat → List Char} {c d : Char} {part : SourcePart} {cs rest : List Char}
  {group : Nat}

/-- The parts of a pattern, read from the left. A backslash at the end stands alone. -/
def parts : List Char → List SourcePart
  | [] => []
  | [c] => [.single c]
  | c :: d :: rest => if c = '\\' then .escape d :: parts rest else .single c :: parts (d :: rest)

/-- No escaped backslash stands right in front of a digit from 1 to 9. -/
def Plain (cs : List Char) : Prop := (parts cs).IsChain SourcePart.Apart

instance (cs : List Char) : Decidable (Plain cs) :=
  inferInstanceAs (Decidable ((parts cs).IsChain SourcePart.Apart))

/-! ## Parts -/

/-- What holds of the empty pattern, and with the rest of a pattern behind a part also of the part
and the rest, holds of all patterns. -/
theorem parts_induction {motive : List Char → Prop} (nil : motive [])
    (step : ∀ part rest, parts (part.chars ++ rest) = part :: parts rest → motive rest →
      motive (part.chars ++ rest)) (cs : List Char) : motive cs := by
  fun_induction parts cs with
  | case1 => exact nil
  | case2 c => exact step (.single c) [] rfl nil
  | case3 d rest ih => exact step (.escape d) rest (by simp [SourcePart.chars, parts]) ih
  | case4 c d rest hc ih =>
    exact step (.single c) (d :: rest) (by simp [SourcePart.chars, parts, hc]) ih

/-- The parts of a pattern make it up. -/
theorem flatMap_chars_parts (cs : List Char) : (parts cs).flatMap SourcePart.chars = cs := by
  induction cs using parts_induction with
  | nil => rfl
  | step part rest hparts ih => rw [hparts, List.flatMap_cons, ih]

/-- A digit that stands first is a part of its own. -/
theorem head?_parts_of_digit (hd : (groupOf? d).isSome = true) :
    (parts (d :: rest)).head? = some (.single d) := by
  have hne : d ≠ '\\' := by
    rintro rfl
    exact absurd hd (by decide)
  cases rest with
  | nil => rfl
  | cons e rest =>
    rw [parts, if_neg hne]
    rfl

/-- A part that stands alone begins with its character. -/
theorem head?_of_head?_parts (h : (parts cs).head? = some (.single d)) : cs.head? = some d := by
  induction cs using parts_induction with
  | nil => exact absurd h (by simp [parts])
  | step part rest hparts _ =>
    rw [hparts, List.head?_cons, Option.some.injEq] at h
    rw [h]
    rfl

/-- **A part is not an escaped backslash in front of a digit** if and only if no such digit follows
it in the text. -/
theorem apart_head_iff : (∀ next ∈ (parts rest).head?, part.Apart next) ↔
    (part = .escape '\\' → ∀ d ∈ rest.head?, groupOf? d = none) := by
  constructor
  · rintro h rfl d hd
    by_contra hsome
    obtain ⟨more, rfl⟩ : ∃ more, rest = d :: more := List.head?_eq_some_iff.1 hd
    have hhead : (parts (d :: more)).head? = some (.single d) :=
      head?_parts_of_digit (Option.isSome_iff_ne_none.2 hsome)
    exact hsome (h _ hhead rfl)
  · intro h next hnext
    match part, next with
    | .escape c, .single d =>
      rintro rfl
      exact h rfl d (head?_of_head?_parts hnext)
    | .escape _, .escape _ => trivial
    | .single _, _ => trivial

/-- A text is plain if its first part and the rest are. -/
theorem plain_part (hparts : parts (part.chars ++ rest) = part :: parts rest) :
    Plain (part.chars ++ rest) ↔
      (part = .escape '\\' → ∀ d ∈ rest.head?, groupOf? d = none) ∧ Plain rest := by
  unfold Plain
  rw [hparts, List.isChain_cons, apart_head_iff]

/-! ## Looking for a backslash in front of a digit -/

/-- A reference is replaced by the text for its group. -/
theorem substitute_reference (h : groupOf? d = some group) :
    substitute text ('\\' :: d :: rest) = text group ++ substitute text rest := by
  rw [substitute, if_pos rfl, h]

/-- A character stays if it is no backslash in front of a digit. -/
theorem substitute_cons (h : c = '\\' → ∀ d ∈ rest.head?, groupOf? d = none) :
    substitute text (c :: rest) = c :: substitute text rest := by
  cases rest with
  | nil => rfl
  | cons d rest =>
    rw [substitute]
    split
    · rename_i hc
      rw [h hc d rfl]
    · rfl

/-- A character that begins no reference does not count. -/
theorem isBackReferencing_cons (h : c = '\\' → ∀ d ∈ rest.head?, groupOf? d = none) :
    isBackReferencing (c :: rest) = isBackReferencing rest := by
  cases rest with
  | nil => rfl
  | cons d rest =>
    rw [isBackReferencing]
    by_cases hc : c = '\\'
    · simp [h hc d rfl]
    · simp [hc]

/-- Nothing is replaced where no backslash stands in front of a digit. -/
theorem substitute_of_not_isBackReferencing (h : isBackReferencing cs = false) :
    substitute text cs = cs := by
  induction cs with
  | nil => rfl
  | cons c rest ih =>
    have hstays : c = '\\' → ∀ d ∈ rest.head?, groupOf? d = none := by
      rintro rfl d hd
      obtain ⟨more, rfl⟩ : ∃ more, rest = d :: more := List.head?_eq_some_iff.1 hd
      simp only [isBackReferencing, Bool.or_eq_false_iff, beq_self_eq_true, Bool.true_and] at h
      exact Option.not_isSome_iff_eq_none.1 (by simp [h.1])
    rw [isBackReferencing_cons hstays] at h
    rw [substitute_cons hstays, ih h]

/-- **A part is treated as what it is**, unless it is an escaped backslash in front of a digit. -/
theorem substitute_part (text : Nat → List Char)
    (hparts : parts (part.chars ++ rest) = part :: parts rest)
    (hclean : part = .escape '\\' → ∀ d ∈ rest.head?, groupOf? d = none) :
    substitute text (part.chars ++ rest) = part.expand text ++ substitute text rest ∧
      isBackReferencing (part.chars ++ rest) = (part.group?.isSome || isBackReferencing rest) := by
  cases part with
  | single c =>
    -- A backslash stands alone only at the end.
    have hlast : c = '\\' → ∀ d ∈ rest.head?, groupOf? d = none := by
      rintro rfl d hd
      obtain ⟨more, rfl⟩ : ∃ more, rest = d :: more := List.head?_eq_some_iff.1 hd
      exact absurd hparts (by simp [SourcePart.chars, parts])
    exact ⟨substitute_cons hlast, isBackReferencing_cons hlast⟩
  | escape c =>
    show substitute text ('\\' :: c :: rest) = _ ∧ isBackReferencing ('\\' :: c :: rest) = _
    cases hgroup : groupOf? c with
    | some group =>
      refine ⟨?_, ?_⟩
      · rw [substitute_reference hgroup]
        simp [SourcePart.expand, SourcePart.group?, hgroup]
      · simp [isBackReferencing, SourcePart.group?, hgroup]
    | none =>
      have hfirst : '\\' = '\\' → ∀ d ∈ (c :: rest).head?, groupOf? d = none := by
        simp [hgroup]
      have hsecond : c = '\\' → ∀ d ∈ rest.head?, groupOf? d = none :=
        fun hc => hclean (congrArg SourcePart.escape hc)
      rw [substitute_cons hfirst, substitute_cons hsecond, isBackReferencing_cons hfirst,
        isBackReferencing_cons hsecond]
      simp [SourcePart.expand, SourcePart.group?, SourcePart.chars, hgroup]

/-- Where no escaped backslash stands in front of a digit, the references are replaced and nothing
else. -/
theorem Plain.substitute_eq (h : Plain cs) (text : Nat → List Char) :
    substitute text cs = (parts cs).flatMap (·.expand text) ∧
      isBackReferencing cs = (parts cs).any fun part => part.group?.isSome := by
  induction cs using parts_induction with
  | nil => exact ⟨rfl, rfl⟩
  | step part rest hparts ih =>
    obtain ⟨hclean, hrest⟩ := (plain_part hparts).1 h
    obtain ⟨hexpand, hany⟩ := ih hrest
    obtain ⟨hsubstitute, hback⟩ := substitute_part text hparts hclean
    rw [hsubstitute, hback, hparts, hexpand, hany]
    exact ⟨rfl, rfl⟩

/-- Where an escaped backslash stands in front of a digit, its second half is taken for the start of
a reference. -/
theorem substitute_ne_of_not_plain (h : ¬ Plain cs)
    (htext : ∀ d group, groupOf? d = some group → ∃ c more, text group = c :: more ∧ c ≠ '\\') :
    substitute text cs ≠ (parts cs).flatMap (·.expand text) ∧ isBackReferencing cs = true := by
  induction cs using parts_induction with
  | nil => exact absurd .nil h
  | step part rest hparts ih =>
    by_cases hclean : part = .escape '\\' → ∀ d ∈ rest.head?, groupOf? d = none
    · obtain ⟨hne, hback⟩ := ih fun hrest => h ((plain_part hparts).2 ⟨hclean, hrest⟩)
      obtain ⟨hsubstitute, hany⟩ := substitute_part text hparts hclean
      rw [hsubstitute, hany, hparts, List.flatMap_cons, hback, Bool.or_true]
      exact ⟨fun heq => hne (List.append_cancel_left heq), rfl⟩
    · push Not at hclean
      obtain ⟨rfl, d, hd, hdigit⟩ := hclean
      obtain ⟨more, rfl⟩ : ∃ more, rest = d :: more := List.head?_eq_some_iff.1 hd
      obtain ⟨group, hgroup⟩ := Option.ne_none_iff_exists'.1 hdigit
      obtain ⟨c, tail, hc, hne⟩ := htext d group hgroup
      have hfirst : '\\' = '\\' → ∀ e ∈ ('\\' :: d :: more).head?, groupOf? e = none := by
        rintro - e he
        obtain rfl := Option.some.inj he
        decide
      show substitute text ('\\' :: '\\' :: d :: more) ≠ _ ∧
        isBackReferencing ('\\' :: '\\' :: d :: more) = true
      rw [substitute_cons hfirst, substitute_reference hgroup, isBackReferencing_cons hfirst, hparts,
        hc]
      refine ⟨fun heq => ?_, ?_⟩
      · -- The text stands where the second backslash should be.
        rw [List.flatMap_cons] at heq
        exact hne (List.cons.inj (List.cons.inj heq).2).1
      · simp [isBackReferencing, hgroup]

/-! ## Ends of regions -/

/-- References are to the groups from 1 to 9. -/
theorem bounds_of_groupOf? (h : groupOf? d = some group) : 1 ≤ group ∧ group ≤ 9 := by
  unfold groupOf? at h
  split at h
  · rename_i hd
    obtain rfl := Option.some.inj h
    have hlow : '1'.toNat ≤ d.toNat := hd.1
    have hhigh : d.toNat ≤ '9'.toNat := hd.2
    have hone : '1'.toNat = 49 := rfl
    have hnine : '9'.toNat = 57 := rfl
    have hzero : '0'.toNat = 48 := rfl
    omega
  · exact absurd h (by simp)

/-- A match in a text of one letter of which every group has that letter. -/
def letterMatch : Match := ⟨⟨0, 1⟩, List.replicate 9 (some ⟨0, 1⟩)⟩

/-- Each group of the match has captured a letter. -/
theorem captured_letterMatch (h : groupOf? d = some group) :
    captured ['a'] letterMatch group = ['a'] := by
  obtain ⟨hlow, hhigh⟩ := bounds_of_groupOf? h
  have hgroup : letterMatch.group group = some ⟨0, 1⟩ := by
    unfold Match.group letterMatch
    rw [if_neg (by omega), List.getElem?_replicate, if_pos (by omega)]
    rfl
  unfold captured
  rw [hgroup]
  rfl

/-- An end resolves to the pattern in which what is found is replaced, if anything is. -/
theorem resolve_of_compile {source : String} {e : EndPattern} (h : compile source = .ok e)
    (line : List Char) (opening : Match) : e.resolve line opening =
      Regex.compile (String.ofList
        (substitute (fun group => escape (captured line opening group)) source.toList)) := by
  unfold compile at h
  split at h
  · obtain rfl := Except.ok.inj h
    rfl
  · rename_i hback
    rw [substitute_of_not_isBackReferencing (Bool.eq_false_iff.2 hback),
      String.ofList_toList]
    cases hregex : Regex.compile source with
    | error error => exact absurd (hregex ▸ h) (by simp [Except.map])
    | ok regex =>
      obtain rfl : fixed regex = e := Except.ok.inj (hregex ▸ h)
      rfl

/-- An end is left to its references if there are any. -/
theorem compile_eq_backReferencing_iff {source : String} :
    compile source = .ok (.backReferencing source) ↔ isBackReferencing source.toList = true := by
  unfold compile
  split
  · rename_i hback
    exact iff_of_true rfl hback
  · rename_i hback
    refine iff_of_false (fun h => ?_) hback
    cases hregex : Regex.compile source with
    | error error => exact absurd (hregex ▸ h) (by simp [Except.map])
    | ok regex => exact absurd (hregex ▸ h) (by simp [Except.map])

/-- **References are resolved.** The parts of a pattern make it up. If no escaped backslash stands
right in front of a digit from 1 to 9, then the end of a region depends on its begin if and only if a
part of it is a reference, and it resolves to the pattern in which the references, and nothing else,
are replaced by the escaped texts of their groups. Any other end is taken to depend on the begin, and
there are lines and matches with which something else is replaced. -/
theorem references_resolved (source : String) :
    (parts source.toList).flatMap SourcePart.chars = source.toList ∧
    (Plain source.toList →
      (compile source = .ok (.backReferencing source) ↔
        ∃ part ∈ parts source.toList, part.group?.isSome = true) ∧
      ∀ e, compile source = .ok e → ∀ line opening, e.resolve line opening =
        Regex.compile (String.ofList ((parts source.toList).flatMap
          (·.expand fun group => escape (captured line opening group))))) ∧
    (¬ Plain source.toList →
      compile source = .ok (.backReferencing source) ∧
      ∃ line opening, substitute (fun group => escape (captured line opening group))
        source.toList ≠ (parts source.toList).flatMap
          (·.expand fun group => escape (captured line opening group))) := by
  refine ⟨flatMap_chars_parts _, fun hplain => ⟨?_, fun e he line opening => ?_⟩, fun hmisread => ?_⟩
  · rw [compile_eq_backReferencing_iff, (hplain.substitute_eq fun _ => []).2, List.any_eq_true]
  · rw [resolve_of_compile he, (hplain.substitute_eq _).1]
  · have htext : ∀ d group, groupOf? d = some group →
        ∃ c more, escape (captured ['a'] letterMatch group) = c :: more ∧ c ≠ '\\' := by
      intro d group hgroup
      refine ⟨'a', [], ?_, by decide⟩
      rw [captured_letterMatch hgroup]
      rfl
    obtain ⟨hne, hback⟩ := substitute_ne_of_not_plain hmisread htext
    exact ⟨compile_eq_backReferencing_iff.2 hback, ['a'], letterMatch, hne⟩

/-- Behind an escaped backslash a reference is one, also if its group took no part; a digit there is
none, but is taken for one. -/
theorem references_resolved_behind_backslash :
    Plain "\\\\\\1x\\2".toList ∧
      compile "\\\\\\1x\\2" = .ok (.backReferencing "\\\\\\1x\\2") ∧
      (backReferencing "\\\\\\1x\\2").resolve "a+b".toList ⟨⟨0, 2⟩, [some ⟨0, 2⟩, none]⟩ =
        Regex.compile "\\\\a\\+x" ∧
      ¬ Plain "\\\\1".toList ∧ compile "\\\\1" = .ok (.backReferencing "\\\\1") := by
  have hplain : Plain "\\\\\\1x\\2".toList := by decide +kernel
  have hmisread : ¬ Plain "\\\\1".toList := by decide +kernel
  obtain ⟨-, hgood, -⟩ := references_resolved "\\\\\\1x\\2"
  obtain ⟨-, -, hbad⟩ := references_resolved "\\\\1"
  obtain ⟨hback, hresolve⟩ := hgood hplain
  have hcompile := hback.2 (by decide +kernel)
  refine ⟨hplain, hcompile, ?_, hmisread, (hbad hmisread).1⟩
  rw [hresolve _ hcompile]
  exact congrArg Regex.compile (by decide +kernel)

/-- A backslash and a one are no reference, but become a class of digits if the first group is a d. -/
theorem escaped_backslash_resolved :
    (∀ part ∈ parts "\\\\1".toList, part.group? = none) ∧
      compile "\\\\1" = .ok (.backReferencing "\\\\1") ∧
      (backReferencing "\\\\1").resolve "d".toList ⟨⟨0, 1⟩, [some ⟨0, 1⟩]⟩ =
        Regex.compile "\\d" ∧
      (Regex.compile "\\d").isOk = true :=
  ⟨by decide +kernel, if_pos (by decide +kernel), congrArg Regex.compile (by decide +kernel),
    by decide +kernel⟩

end EndPattern

end ScopePaint
