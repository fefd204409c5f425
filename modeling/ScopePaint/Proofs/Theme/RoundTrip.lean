import ScopePaint.Proofs.Data.Layouts
import ScopePaint.Proofs.Outcome
import ScopePaint.Proofs.Theme.JsonAttributes
import ScopePaint.Theme.Selectors

/-!
# Themes are read from what is written for them

`Theme.ofJson_jsonText_of_read` comes out of three facts:

* the text of a theme is read as its tree, since its lists and records do not lie deep
  (`Theme.readable_toJson`);
* from its tree a theme is read setting by setting, or not at all if it has a number that is not
  finite (`ThemeSetting.ofValue_tree`, `Theme.ofValue_tree`);
* a theme that was read has nothing that is not written: no handlers for links
  (`Theme.isPlain_of_ofJson`) and, if it was a property list, no numbers
  (`Theme.isSimple_of_ofPropertyList`).
-/

set_option autoImplicit false

namespace ScopePaint

open Data (Value Fields Json)
open Number (Single)

deriving instance DecidableEq for Theme

namespace ThemeSetting

/-- The attributes of a setting, selected or not. -/
def allAttributes (s : ThemeSetting) : List ThemeAttribute :=
  s.attributes ++ s.inSelection ++ s.outOfSelection

/-- The attributes of a setting are among all it has. -/
theorem mem_allAttributes (s : ThemeSetting) : ∀ a ∈ s.attributes, a ∈ s.allAttributes :=
  fun _ ha => List.mem_append_left _ (List.mem_append_left _ ha)

/-- So are those in selections. -/
theorem mem_allAttributes_in (s : ThemeSetting) : ∀ a ∈ s.inSelection, a ∈ s.allAttributes :=
  fun _ ha => List.mem_append_left _ (List.mem_append_right _ ha)

/-- So are those out of selections. -/
theorem mem_allAttributes_out (s : ThemeSetting) : ∀ a ∈ s.outOfSelection, a ∈ s.allAttributes :=
  fun _ ha => List.mem_append_right _ ha

/-- Whether all numbers in a setting are finite. -/
def hasFiniteNumbers (s : ThemeSetting) : Bool :=
  s.allAttributes.all ThemeAttribute.hasFiniteNumbers

/-- What is written for a setting can be read. -/
def Writable (s : ThemeSetting) : Prop := ∀ a ∈ s.allAttributes, a.Writable

/-- The field of a name, if there is one. -/
def optionalField (name : String) (v : Option Value) : List (String × Value) :=
  v.toList.map fun v => (name, v)

/-- A list that is written only if it has items is absent if it has none. -/
theorem tree_listField (name : String) (items : List Json) :
    Json.treeOfFields (listField name items) =
      optionalField name (if items.isEmpty then none else some (.list (items.map Json.tree))) := by
  unfold listField
  split
  · rw [Json.treeOfFields]
    rfl
  · rw [Json.treeOfFields, Json.tree, Json.treeOfItems_eq_map, Json.treeOfFields]
    rfl

/-- The fields of a setting, some of which may be left out. -/
theorem ofValue_fields (scope attributes : Value) (parents inSelection outOfSelection : Option Value) :
    Fields.ofValue true
      ["scope", "parent_scopes", "attributes", "in_selection_attributes",
        "out_selection_attributes"]
      (.record (("scope", scope) :: optionalField "parent_scopes" parents
        ++ ("attributes", attributes) :: optionalField "in_selection_attributes" inSelection
        ++ optionalField "out_selection_attributes" outOfSelection)) =
      some ⟨[some scope, parents, some attributes, inSelection, outOfSelection], false⟩ := by
  cases parents <;> cases inSelection <;> cases outOfSelection <;> rfl

/-- The tree of a setting has its scope, its parents and its three lists of attributes. -/
theorem tree_toJson (s : ThemeSetting) : s.toJson.tree = .record
    (("scope", .text s.scope.text)
      :: optionalField "parent_scopes" (if s.parents.isEmpty then none else
        some (.list (s.parents.map fun scope => .text scope.text)))
      ++ ("attributes", .list (s.attributes.map fun a => a.toJson.tree))
      :: optionalField "in_selection_attributes" (if s.inSelection.isEmpty then none else
        some (.list (s.inSelection.map fun a => a.toJson.tree)))
      ++ optionalField "out_selection_attributes" (if s.outOfSelection.isEmpty then none else
        some (.list (s.outOfSelection.map fun a => a.toJson.tree)))) := by
  unfold toJson
  rw [Json.tree]
  simp only [Json.treeOfFields_append, Json.treeOfFields, Json.tree, tree_listField,
    Json.treeOfItems_eq_map, List.isEmpty_map, List.map_map, Function.comp_def]

/-- Parents that are not written are none. -/
theorem defaulted_parents (parents : List ScopeName) (rest : List (Option Value))
    (positional : Bool) :
    Fields.defaulted ⟨(if parents.isEmpty then none else
      some (.list (parents.map fun scope => .text scope.text))) :: rest, positional⟩ 0
      (Value.asList Value.asText) [] = some (parents.map (·.text)) := by
  have hread : ∀ name ∈ parents.map (·.text), Value.asText (.text name) =
      if true then some name else none := fun _ _ => rfl
  have hlist := Fields.defaulted_list (p := fun _ => true) hread rest positional
  simpa only [List.isEmpty_map, List.map_map, Function.comp_def, List.all_eq_true, implies_true,
    if_true] using hlist

/-- **A setting is read from what is written for it**, if its numbers are finite. -/
theorem ofValue_tree {s : ThemeSetting} (h : s.Writable) :
    ofValue s.toJson.tree = if s.hasFiniteNumbers then some s else none := by
  have hread : ∀ {attributes : List ThemeAttribute}, (∀ a ∈ attributes, a ∈ s.allAttributes) →
      ∀ a ∈ attributes, ThemeAttribute.ofValue a.toJson.tree =
        if a.hasFiniteNumbers then some a else none :=
    fun hmem a ha => ThemeAttribute.ofValue_tree (h a (hmem a ha))
  have hattributes := Value.asList_map (hread s.mem_allAttributes)
  have hin := hread s.mem_allAttributes_in
  have hout := hread s.mem_allAttributes_out
  have hparents : s.parents.map (ScopeName.mk ∘ (·.text)) = s.parents := List.map_id _
  unfold ofValue
  rw [tree_toJson, ofValue_fields]
  simp only [Option.bind_eq_bind, Option.bind_some, Fields.required_zero, Fields.defaulted_succ,
    Fields.defaulted_zero, Value.asText, defaulted_parents, Fields.defaulted_list hin,
    Fields.defaulted_list hout, hattributes, List.map_map, hparents]
  unfold hasFiniteNumbers allAttributes
  rw [List.all_append, List.all_append]
  cases s.attributes.all ThemeAttribute.hasFiniteNumbers with
  | false => rfl
  | true =>
    cases s.inSelection.all ThemeAttribute.hasFiniteNumbers with
    | false => rfl
    | true => cases s.outOfSelection.all ThemeAttribute.hasFiniteNumbers <;> rfl

/-- What is written for a setting can be read. -/
theorem readable_toJson {s : ThemeSetting} (h : s.Writable) {depth : Nat}
    (hdepth : depth + 2 < Data.maxDepth) : s.toJson.Readable depth := by
  have hlist : ∀ {items : List Json}, (∀ v ∈ items, v.Readable (depth + 2)) →
      (Json.list items).Readable (depth + 1) :=
    fun hitems => ⟨by omega, Json.readableItems_iff.2 hitems⟩
  have hattributes : ∀ {attributes : List ThemeAttribute},
      (∀ a ∈ attributes, a ∈ s.allAttributes) →
      (Json.list (attributes.map ThemeAttribute.toJson)).Readable (depth + 1) := by
    intro attributes hmem
    refine hlist fun v hv => ?_
    obtain ⟨a, ha, rfl⟩ := List.mem_map.1 hv
    exact ThemeAttribute.readable_toJson (h a (hmem a ha)) hdepth
  have hparents :
      (Json.list (s.parents.map fun scope => .text scope.text)).Readable (depth + 1) := by
    refine hlist fun v hv => ?_
    obtain ⟨scope, -, rfl⟩ := List.mem_map.1 hv
    exact trivial
  have hoptional : ∀ {name : String} {items : List Json}, (Json.list items).Readable (depth + 1) →
      ∀ field ∈ listField name items, field.2.Readable (depth + 1) := by
    intro name items hitems field hfield
    unfold listField at hfield
    split at hfield
    · exact absurd hfield List.not_mem_nil
    · obtain rfl := List.mem_singleton.1 hfield
      exact hitems
  refine ⟨by omega, Json.readableFields_iff.2 fun field hfield => ?_⟩
  simp only [List.mem_append, List.mem_cons] at hfield
  rcases hfield with ((rfl | hfield) | (rfl | hfield)) | hfield
  · exact trivial
  · exact hoptional hparents field hfield
  · exact hattributes s.mem_allAttributes
  · exact hoptional (hattributes s.mem_allAttributes_in) field hfield
  · exact hoptional (hattributes s.mem_allAttributes_out) field hfield

/-- No handlers are read. -/
theorem isPlain_of_ofValue {v : Value} {s : ThemeSetting} (h : ofValue v = some s) :
    ∀ a ∈ s.allAttributes, a.IsPlain := by
  have hlist : ∀ {w : Value} {attributes : List ThemeAttribute},
      w.asList ThemeAttribute.ofValue = some attributes → ∀ a ∈ attributes, a.IsPlain := by
    intro w attributes hw a ha
    obtain ⟨v, hv⟩ := Value.mem_of_asList hw a ha
    exact ThemeAttribute.isPlain_of_ofValue hv
  have hfield : ∀ {fields : Fields} {index : Nat} {attributes : List ThemeAttribute},
      fields.defaulted index (Value.asList ThemeAttribute.ofValue) [] = some attributes →
      ∀ a ∈ attributes, a.IsPlain := by
    intro fields index attributes hread
    unfold Fields.defaulted at hread
    split at hread
    · exact hlist hread
    · obtain rfl := Option.some.inj hread
      exact fun a ha => absurd ha List.not_mem_nil
  unfold ofValue at h
  simp only [Option.bind_eq_bind, Option.bind_eq_some_iff] at h
  obtain ⟨_, _, _, _, _, _, attributes, hattributes, inSelection, hin, outOfSelection, hout, h⟩ := h
  obtain rfl := Option.some.inj h
  intro a ha
  rcases List.mem_append.1 ha with ha | ha
  · rcases List.mem_append.1 ha with ha | ha
    · exact hfield hattributes a ha
    · exact hfield hin a ha
  · exact hfield hout a ha

end ThemeSetting

namespace Theme

/-- The numbers in a theme. -/
def numbers (t : Theme) : List Single :=
  (t.settings.flatMap ThemeSetting.allAttributes).flatMap ThemeAttribute.numbers

/-- The numbers of a theme are those in the attributes of its settings. -/
theorem mem_numbers {t : Theme} {x : Single} :
    x ∈ t.numbers ↔ ∃ s ∈ t.settings, ∃ a ∈ s.allAttributes, x ∈ a.numbers := by
  simp only [numbers, List.mem_flatMap]
  constructor
  · rintro ⟨a, ⟨s, hs, ha⟩, hx⟩
    exact ⟨s, hs, a, ha, hx⟩
  · rintro ⟨s, hs, a, ha, hx⟩
    exact ⟨a, ⟨s, hs, ha⟩, hx⟩

/-- All settings have finite numbers if all numbers of the theme are finite. -/
theorem hasFiniteNumbers_iff (t : Theme) :
    t.settings.all ThemeSetting.hasFiniteNumbers = true ↔ ∀ x ∈ t.numbers, x.isFinite = true := by
  simp only [ThemeSetting.hasFiniteNumbers, ThemeAttribute.hasFiniteNumbers, List.all_eq_true]
  constructor
  · intro h x hx
    obtain ⟨s, hs, a, ha, hx⟩ := mem_numbers.1 hx
    exact h s hs a ha x hx
  · intro h s hs a ha x hx
    exact h x (mem_numbers.2 ⟨s, hs, a, ha, hx⟩)

/-- A theme is made of its own settings. -/
theorem ofSettings_settings (t : Theme) : ofSettings t.name t.settings = .ok t :=
  dif_pos t.hasRoot

/-- A theme has the settings it was made of. -/
theorem settings_of_ofSettings {name : String} {settings : List ThemeSetting} {t : Theme}
    (h : ofSettings name settings = .ok t) : t.settings = settings := by
  unfold ofSettings at h
  split at h
  · obtain rfl := Except.ok.inj h
    rfl
  · exact absurd h (by simp)

section Written

variable {t : Theme} (h : ∀ s ∈ t.settings, s.Writable)

include h

/-- A theme is read from its tree, if its numbers are finite. -/
theorem ofValue_tree : ofValue t.toJson.tree =
    if ∀ x ∈ t.numbers, x.isFinite = true then .ok t else .error .malformedJson := by
  have hsettings := Value.asList_map fun s hs => ThemeSetting.ofValue_tree (h s hs)
  have htree : t.toJson.tree = .record [("name", .text t.name),
      ("settings", .list (t.settings.map fun s => s.toJson.tree))] := by
    unfold toJson
    simp only [Json.tree, Json.treeOfFields, Json.treeOfItems_eq_map, List.map_map,
      Function.comp_def]
  have hfields : Fields.ofValue true ["name", "settings"] t.toJson.tree = some
      ⟨[some (.text t.name), some (.list (t.settings.map fun s => s.toJson.tree))], false⟩ := by
    rw [htree]
    rfl
  unfold ofValue
  simp only [hfields, Option.bind_eq_bind, Option.bind_some, Fields.required_zero,
    Fields.required_succ, Value.asText, hsettings, ← hasFiniteNumbers_iff]
  cases t.settings.all ThemeSetting.hasFiniteNumbers with
  | false => rfl
  | true => exact t.ofSettings_settings

/-- What is written for a theme can be read: its settings lie in a list in a record. -/
theorem readable_toJson : t.toJson.Readable 0 := by
  have hsettings : (Json.list (t.settings.map ThemeSetting.toJson)).Readable 1 := by
    refine ⟨by decide, Json.readableItems_iff.2 fun v hv => ?_⟩
    obtain ⟨s, hs, rfl⟩ := List.mem_map.1 hv
    exact ThemeSetting.readable_toJson (h s hs) (by decide)
  refine ⟨by decide, Json.readableFields_iff.2 fun field hfield => ?_⟩
  simp only [List.mem_cons, List.not_mem_nil, or_false] at hfield
  rcases hfield with rfl | rfl
  · exact trivial
  · exact hsettings

/-- A theme is read from its text if its numbers are finite, and is malformed otherwise. -/
theorem ofJson_jsonText : ofJson t.jsonText =
    if ∀ x ∈ t.numbers, x.isFinite = true then .ok t else .error .malformedJson := by
  have hread : Data.readJson t.jsonText = some t.toJson.tree :=
    Json.readJson_pretty (readable_toJson h)
  unfold ofJson
  rw [hread]
  exact ofValue_tree h

end Written

/-- Themes in JSON have no handlers. -/
theorem isPlain_of_ofJson {text : String} {t : Theme} (h : ofJson text = .ok t) :
    ∀ s ∈ t.settings, ∀ a ∈ s.allAttributes, a.IsPlain := by
  unfold ofJson at h
  split at h
  · unfold ofValue at h
    dsimp only at h
    split at h
    · rename_i name settings hparts
      simp only [Option.bind_eq_bind, Option.bind_eq_some_iff] at hparts
      obtain ⟨fields, -, _, -, _, hsettings, hparts⟩ := hparts
      obtain ⟨rfl, rfl⟩ := Prod.mk.inj (Option.some.inj hparts)
      obtain ⟨list, -, hlist⟩ := Option.bind_eq_some_iff.1 hsettings
      rw [settings_of_ofSettings h]
      intro s hs
      obtain ⟨v, hv⟩ := Value.mem_of_asList hlist s hs
      exact ThemeSetting.isPlain_of_ofValue hv
    · exact absurd h (by simp)
  · exact absurd h (by simp)

end Theme

/-! ## Themes with selectors -/

/-- Attributes without numbers and handlers. -/
def ThemeAttribute.IsSimple (a : ThemeAttribute) : Prop := a.IsPlain ∧ a.numbers = []

/-- A simple attribute can be written. -/
theorem ThemeAttribute.IsSimple.writable {a : ThemeAttribute} (h : a.IsSimple) : a.Writable :=
  ⟨h.1, fun x hx => absurd hx (by rw [h.2]; exact List.not_mem_nil)⟩

/-- Attributes with a color are simple. -/
theorem SelectorStyle.isSimple_of_colorAttribute {make : Color → ThemeAttribute}
    (hmake : ∀ c, (make c).IsSimple) {s : Option String} {attributes : List ThemeAttribute}
    (h : colorAttribute make s = .ok attributes) : ∀ a ∈ attributes, a.IsSimple := by
  cases s with
  | none =>
    obtain rfl := Except.ok.inj h
    exact fun a ha => absurd ha List.not_mem_nil
  | some s =>
    rw [colorAttribute] at h
    cases hc : Color.ofText s with
    | error e =>
      rw [hc] at h
      exact absurd h (by simp [Except.map])
    | ok c =>
      rw [hc] at h
      obtain rfl := Except.ok.inj h
      intro a ha
      obtain rfl := List.mem_singleton.1 ha
      exact hmake c

/-- Attributes for a flag are simple. -/
theorem SelectorStyle.isSimple_of_flagAttribute (flag : List Char) :
    ∀ a ∈ flagAttribute flag, a.IsSimple := by
  intro a ha
  unfold flagAttribute at ha
  split at ha
  · obtain rfl := List.mem_singleton.1 ha
    exact ⟨trivial, rfl⟩
  · obtain rfl := List.mem_singleton.1 ha
    exact ⟨trivial, rfl⟩
  · obtain rfl := List.mem_singleton.1 ha
    exact ⟨trivial, rfl⟩
  · exact absurd ha List.not_mem_nil

/-- All attributes of a style are simple. -/
theorem SelectorStyle.isSimple_of_attributes {s : SelectorStyle} {attributes : List ThemeAttribute}
    (h : s.attributes = .ok attributes) : ∀ a ∈ attributes, a.IsSimple := by
  unfold SelectorStyle.attributes at h
  obtain ⟨foreground, hforeground, h⟩ := bind_eq_ok_iff.1 h
  obtain ⟨background, hbackground, h⟩ := bind_eq_ok_iff.1 h
  obtain rfl := Except.ok.inj h
  have hcolor : ∀ c, (ThemeAttribute.color c).IsSimple := fun _ => ⟨trivial, rfl⟩
  have hbackgroundColor : ∀ c, (ThemeAttribute.backgroundColor c .none .text).IsSimple :=
    fun _ => ⟨trivial, rfl⟩
  intro a ha
  simp only [List.mem_append, List.mem_flatMap] at ha
  rcases ha with (ha | ha) | ⟨flag, -, ha⟩
  · exact isSimple_of_colorAttribute hcolor hforeground a ha
  · exact isSimple_of_colorAttribute hbackgroundColor hbackground a ha
  · exact isSimple_of_flagAttribute flag a ha

/-- The settings of an entry have its attributes, whether selected or not. -/
theorem SelectorEntry.allAttributes_settings (e : SelectorEntry) (attributes : List ThemeAttribute) :
    ∀ s ∈ e.settings attributes, s.allAttributes = attributes := by
  intro s hs
  unfold SelectorEntry.settings at hs
  split at hs
  · simp only [List.mem_cons, List.not_mem_nil, or_false] at hs
    rcases hs with rfl | rfl <;> simp [ThemeSetting.allAttributes]
  · obtain ⟨selector, -, hselector⟩ := List.mem_filterMap.1 hs
    unfold settingOf at hselector
    split at hselector
    · obtain rfl := Option.some.inj hselector
      simp [ThemeSetting.allAttributes]
    · exact absurd hselector (by simp)

/-- All attributes in the settings of a theme with selectors are simple. -/
theorem SelectorTheme.isSimple_of_settings {entries : List SelectorEntry}
    {settings : List ThemeSetting} (h : SelectorTheme.settings entries = .ok settings) :
    ∀ s ∈ settings, ∀ a ∈ s.allAttributes, a.IsSimple := by
  induction entries generalizing settings with
  | nil =>
    obtain rfl := Except.ok.inj h
    exact fun s hs => absurd hs List.not_mem_nil
  | cons e rest ih =>
    unfold SelectorTheme.settings at h
    obtain ⟨attributes, hattributes, h⟩ := bind_eq_ok_iff.1 h
    obtain ⟨others, hothers, h⟩ := bind_eq_ok_iff.1 h
    obtain rfl := Except.ok.inj h
    intro s hs
    rcases List.mem_append.1 hs with hs | hs
    · rw [e.allAttributes_settings attributes s hs]
      exact SelectorStyle.isSimple_of_attributes hattributes
    · exact ih hothers s hs

namespace Theme

/-- A theme that was read from a property list has simple attributes only. -/
theorem isSimple_of_ofPropertyList {bytes : List UInt8} {fallback : String} {t : Theme}
    (h : (ofPropertyList bytes fallback).1 = .ok t) :
    ∀ s ∈ t.settings, ∀ a ∈ s.allAttributes, a.IsSimple := by
  unfold ofPropertyList at h
  split at h
  · unfold SelectorTheme.toTheme at h
    dsimp only at h
    split at h
    · rename_i settings hsettings
      rw [settings_of_ofSettings h]
      exact SelectorTheme.isSimple_of_settings hsettings
    · exact absurd h (by simp)
  · exact absurd h (by simp)

/-- **Themes are read back from what is written for them.** For a theme that was read from JSON this
takes that all its numbers are finite, and that the texts of these are read as them; a number that
is not finite makes what is written no theme. A theme that was read from a property list is always
read back. -/
theorem ofJson_jsonText_of_read (t : Theme) :
    (∀ text : String, ofJson text = .ok t →
      (∀ x ∈ t.numbers, x.isFinite = true → x.ReadsBack) →
      ofJson t.jsonText =
        if ∀ x ∈ t.numbers, x.isFinite = true then .ok t else .error .malformedJson) ∧
    ∀ (bytes : List UInt8) (fallback : String),
      (ofPropertyList bytes fallback).1 = .ok t → ofJson t.jsonText = .ok t := by
  constructor
  · intro text hread hnumbers
    have hplain := isPlain_of_ofJson hread
    have hwritable : ∀ s ∈ t.settings, s.Writable := fun s hs a ha =>
      ⟨hplain s hs a ha, fun x hx => hnumbers x (mem_numbers.2 ⟨s, hs, a, ha, hx⟩)⟩
    exact ofJson_jsonText hwritable
  · intro bytes fallback hread
    have hsimple := isSimple_of_ofPropertyList hread
    have hwritable : ∀ s ∈ t.settings, s.Writable := fun s hs a ha => (hsimple s hs a ha).writable
    have hfinite : ∀ x ∈ t.numbers, x.isFinite = true := by
      intro x hx
      obtain ⟨s, hs, a, ha, hx⟩ := mem_numbers.1 hx
      rw [(hsimple s hs a ha).2] at hx
      exact absurd hx List.not_mem_nil
    rw [ofJson_jsonText hwritable, if_pos hfinite]

/-! ### A number, a color and an infinity -/

/-- A theme with a number. -/
def kerned : Theme :=
  ⟨"kerned", [{ scope := ⟨rootScope⟩, attributes := [.kerning ⟨0x3FC00000⟩] }], by decide⟩

/-- A theme with one color for all text. -/
def gray : Theme :=
  ⟨"gray", [{ scope := ⟨rootScope⟩, attributes := [.color ⟨128, 128, 128, 255⟩] },
    { scope := ⟨"text"⟩, attributes := [.color ⟨128, 128, 128, 255⟩] }], by decide⟩

/-- A property list with one color for all text. -/
def grayList : String :=
  "\x7b settings = (\x7b settings = \x7b foreground = \"#808080\"; \x7d; \x7d); \x7d"

/-- The bytes of that property list. -/
def grayBytes : List UInt8 := grayList.toList.map fun c => .ofNat c.toNat

/-- The gray theme is read from its bytes. -/
theorem ofPropertyList_grayBytes : (ofPropertyList grayBytes "gray").1 = .ok gray := by
  have hplain : Data.readPropertyList grayBytes = Data.PropertyList.readPlain grayBytes := by
    have hmagic : Data.PropertyList.magic.isPrefixOf grayBytes = false := by decide +kernel
    have htext : Data.PropertyList.textOfBytes grayBytes = some grayList := by decide +kernel
    have hhead : grayList.toList.head? = some '\x7b' := by decide +kernel
    have hspace : Unicode.isWhiteSpace '\x7b' = false := by
      unfold Unicode.isWhiteSpace
      rw [Unicode.whiteSpaceRanges_items]
      decide +kernel
    have hxml : Data.PropertyList.isXml grayList.toList = false := by
      unfold Data.PropertyList.isXml
      rw [Text.dropWhile_eq_self hhead (by rw [hspace]; decide)]
      decide +kernel
    unfold Data.readPropertyList
    rw [hmagic, htext]
    dsimp only
    rw [hxml]
    rfl
  have hentries : (Data.PropertyList.readPlain grayBytes).bind SelectorTheme.ofValue =
      some ⟨none, [⟨none, ⟨some "#808080", none, none⟩⟩]⟩ := by
    decide +kernel
  have hcolor : Color.ofText "#808080" = .ok ⟨128, 128, 128, 255⟩ :=
    Color.ofText_text ⟨128, 128, 128, 255⟩
  unfold ofPropertyList
  rw [hplain, hentries]
  dsimp only [SelectorTheme.toTheme, SelectorTheme.settings, SelectorStyle.attributes,
    SelectorStyle.colorAttribute]
  rw [hcolor]
  decide +kernel

/-- A theme with a number and one from a property list are read back. -/
theorem ofJson_jsonText_kerned_gray :
    (ofJson "[\"kerned\", [[\"source\", [], [[\"kerning\", 1.5]]]]]" = .ok kerned ∧
      (∀ x ∈ kerned.numbers, x.isFinite = true → x.ReadsBack) ∧
      ofJson kerned.jsonText = .ok kerned) ∧
    (ofPropertyList grayBytes "gray").1 = .ok gray ∧ ofJson gray.jsonText = .ok gray := by
  have hread : ofJson "[\"kerned\", [[\"source\", [], [[\"kerning\", 1.5]]]]]" = .ok kerned := by
    decide +kernel
  have hnumbers : ∀ x ∈ kerned.numbers, x.isFinite = true → x.ReadsBack := by
    intro x hx _
    obtain rfl : x = ⟨0x3FC00000⟩ := List.mem_singleton.1 hx
    have hnumber : (Data.readNumber (Single.text ⟨0x3FC00000⟩).toList).map
        (fun result => (result.1.asSingle, result.2)) = some (some ⟨0x3FC00000⟩, []) := by
      decide +kernel
    obtain ⟨⟨v, _⟩, hv, hresult⟩ := Option.map_eq_some_iff.1 hnumber
    obtain ⟨hsingle, rfl⟩ := Prod.mk.inj hresult
    exact ⟨v, hv, hsingle⟩
  have hback := (ofJson_jsonText_of_read kerned).1 _ hread hnumbers
  rw [if_pos (by decide)] at hback
  exact ⟨⟨hread, hnumbers, hback⟩, ofPropertyList_grayBytes,
    (ofJson_jsonText_of_read gray).2 grayBytes "gray" ofPropertyList_grayBytes⟩

/-- A theme with a number that is not finite. -/
def huge : Theme :=
  ⟨"huge", [{ scope := ⟨rootScope⟩, attributes := [.kerning ⟨0x7F800000⟩] }], by decide⟩

/-- A number above all of single precision is read as an infinity, and what is written for the theme
is no theme. -/
theorem not_read_back_huge :
    ofJson "\x7b\"name\": \"huge\", \"settings\": [\x7b\"scope\": \"source\",
      \"attributes\": [\x7b\"type\": \"kerning\", \"value\": 1e39\x7d]\x7d]\x7d" = .ok huge ∧
    ofJson huge.jsonText = .error .malformedJson := by
  have hinfinite : Single.isFinite ⟨0x7F800000⟩ = false := by decide
  have hwritable : ∀ s ∈ huge.settings, s.Writable := by
    intro s hs a ha
    obtain rfl := List.mem_singleton.1 hs
    obtain rfl : a = .kerning ⟨0x7F800000⟩ := List.mem_singleton.1 ha
    refine ⟨trivial, fun x hx hfinite => ?_⟩
    obtain rfl := List.mem_singleton.1 hx
    exact absurd hfinite (by rw [hinfinite]; decide)
  constructor
  · decide +kernel
  · rw [ofJson_jsonText hwritable, if_neg]
    intro hall
    exact absurd (hall ⟨0x7F800000⟩ List.mem_cons_self) (by rw [hinfinite]; decide)

end Theme

end ScopePaint
