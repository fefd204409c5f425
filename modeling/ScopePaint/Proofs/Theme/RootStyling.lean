import ScopePaint.Proofs.Theme.Resolution
import ScopePaint.Proofs.Theme.SelectorSettings
import ScopePaint.Theme.Default

/-!
# Source text is styled

Settings can replace the attributes that others give, but not take them away: where a setting
applies, there is something of each kind of attribute that it has
(`Theme.exists_get?_resolveScope`), and what a scope is given, the scopes inside of it leave or
replace (`Theme.exists_get?_resolveStack`).

A setting for the root scope alone applies to every scope whose name begins with it, whatever is
around (`ThemeSetting.applies_of_isRoot`). Every theme has one, and so styles all source text
(`Theme.source_text_styled`).
-/

set_option autoImplicit false

namespace ScopePaint

namespace ScopeName

/-- A name has a first component. -/
theorem components_ne_nil (s : ScopeName) : s.components ≠ [] := by
  unfold components Text.split
  rw [Ne, List.map_eq_nil_iff]
  exact Text.splitAt_ne_nil '.' s.text.toList

/-- The root of a name is its first component. -/
theorem singleton_prefix_components {s : ScopeName} {first : String} (h : s.root = first) :
    [first] <+: s.components := by
  obtain ⟨c, rest, hcomponents⟩ := List.exists_cons_of_ne_nil s.components_ne_nil
  rw [root, hcomponents, List.headD_cons] at h
  rw [hcomponents, h]
  exact ⟨rest, rfl⟩

end ScopeName

namespace ThemeSetting

variable {s : ThemeSetting} {scope : ScopeName}

/-- A setting for the root scope alone applies to all scopes in it. -/
theorem applies_of_isRoot (hroot : s.isRoot = true) (hscope : scope.root = rootScope)
    (around : List ScopeName) : s.Applies scope around := by
  obtain ⟨htext, hparents⟩ := isRoot_iff.1 hroot
  have hcomponents : s.scope.components = [rootScope] := by
    have hname : s.scope = ⟨rootScope⟩ := congrArg ScopeName.mk htext
    rw [hname]
    decide +kernel
  refine ⟨?_, fun wanted hwanted => ?_⟩
  · rw [hcomponents]
    exact ScopeName.singleton_prefix_components hscope
  · rw [hparents] at hwanted
    exact absurd hwanted List.not_mem_nil

/-- A setting that gives an attribute gives one of its kind. -/
theorem last?_ne_none {o : Occasion} {a : ThemeAttribute} (ha : a ∈ s.on o) :
    s.last? o a.kind ≠ none := by
  intro hnone
  rw [last?, List.find?_eq_none] at hnone
  exact hnone a (List.mem_reverse.2 ha) (by simp)

end ThemeSetting

namespace Theme

variable {t : Theme} {s : ThemeSetting} {a : ThemeAttribute} {scope : ScopeName}

/-- Every theme has a setting for the root. -/
theorem exists_isRoot (t : Theme) : ∃ s ∈ t.settings, s.isRoot = true :=
  List.any_eq_true.1 t.hasRoot

/-- **Where a setting applies** there is something of each kind of attribute that it has. -/
theorem exists_get?_resolveScope {around : List ScopeName} {o : Occasion} (hs : s ∈ t.settings)
    (happlies : s.Applies scope around) (ha : a ∈ s.on o) :
    ∃ b, ((t.resolveScope scope around).on o).get? a.kind = some b := by
  rw [← Option.ne_none_iff_exists']
  intro hnone
  exact ThemeSetting.last?_ne_none ha (get?_resolveScope_eq_none_iff.1 hnone s hs happlies)

/-- **What a scope of a stack is given** is there for the stack, or something else of its kind. -/
theorem exists_get?_resolveStack {stack : List ScopeName} {kind : String} {depth : Nat}
    (h : t.attributeAt? kind stack depth ≠ none) :
    ∃ b, (t.resolveStack stack).get? kind = some b := by
  rw [← Option.ne_none_iff_exists']
  exact fun hnone => h (get?_resolveStack_eq_none_iff.1 hnone depth)

/-- **Every theme styles source text.** A theme has a setting for the root scope alone. Each kind of
attribute that such a setting has, there is for every scope that begins with the root scope,
whatever is around, and for every stack with such a scope. -/
theorem source_text_styled (t : Theme) :
    (∃ s ∈ t.settings, s.scope.text = rootScope ∧ s.parents = []) ∧
    ∀ s ∈ t.settings, s.scope.text = rootScope → s.parents = [] →
      ∀ scope : ScopeName, scope.root = rootScope →
        (∀ around o, ∀ a ∈ s.on o,
          ∃ b, ((t.resolveScope scope around).on o).get? a.kind = some b) ∧
        ∀ stack : List ScopeName, scope ∈ stack → ∀ a ∈ s.attributes,
          ∃ b, (t.resolveStack stack).get? a.kind = some b := by
  constructor
  · obtain ⟨s, hs, hroot⟩ := t.exists_isRoot
    exact ⟨s, hs, ThemeSetting.isRoot_iff.1 hroot⟩
  · intro s hs htext hparents scope hscope
    have happlies := ThemeSetting.applies_of_isRoot
      (ThemeSetting.isRoot_iff.2 ⟨htext, hparents⟩) hscope
    refine ⟨fun around o a ha => exists_get?_resolveScope hs (happlies around) ha, ?_⟩
    intro stack hmem a ha
    obtain ⟨depth, hdepth⟩ := List.mem_iff_getElem?.1 hmem
    obtain ⟨b, hb⟩ :=
      exists_get?_resolveScope (o := .always) hs (happlies (stack.take depth)) ha
    have hgiven : t.attributeAt? a.kind stack depth ≠ none := by
      rw [attributeAt?, hdepth, Option.bind_some, Option.ne_none_iff_exists']
      exact ⟨b, hb⟩
    exact exists_get?_resolveStack hgiven

/-- Source text inside of other text, and a comment in it: the built-in theme gives it a color, and
a background where it is selected. -/
theorem source_text_styled_embedded :
    (∃ b, (builtin.resolveStack [⟨"text.html"⟩, ⟨"source.css"⟩, ⟨"comment.block"⟩]).get? "color" =
      some b) ∧
    ∃ b, ((builtin.resolveScope ⟨"source.css"⟩ [⟨"text.html"⟩]).on .selected).get?
      "background_color" = some b := by
  have hroot : (⟨"source.css"⟩ : ScopeName).root = rootScope := by decide +kernel
  obtain ⟨hscope, hstack⟩ := (source_text_styled builtin).2 _ List.mem_cons_self rfl rfl _ hroot
  exact ⟨hstack _ (by simp) (.color ⟨0xD4, 0xD4, 0xD4, 255⟩) List.mem_cons_self,
    hscope _ .selected (.backgroundColor ⟨0x26, 0x4F, 0x78, 255⟩ .none .text) List.mem_cons_self⟩

end Theme

end ScopePaint
