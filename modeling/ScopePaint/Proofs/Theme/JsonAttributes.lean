import ScopePaint.Proofs.Data.JsonTrees
import ScopePaint.Proofs.Data.RecordFields
import ScopePaint.Proofs.Theme.ColorTexts
import ScopePaint.Theme.Json

/-!
# Attributes in JSON

What is written for an attribute is read as the attribute (`ThemeAttribute.ofValue_tree`), kind by
kind, unless it has a number that is not finite: such a number is written as a null, which no
attribute takes for a number. Handlers of links are not written, so the attribute must have none.
-/

set_option autoImplicit false

namespace ScopePaint

open Data (Value Fields Json)
open Number (Single)

/-! ## Words, colors and numbers -/

/-- A rounding is read from its word. -/
theorem Rounding.readWord_word (x : Rounding) : readWord all word (.text x.word) = some x := by
  cases x <;> decide

/-- So is a coloring. -/
theorem Coloring.readWord_word (x : Coloring) : readWord all word (.text x.word) = some x := by
  cases x <;> decide

/-- So is a style of underlines. -/
theorem UnderlineStyle.readWord_word (x : UnderlineStyle) :
    readWord all word (.text x.word) = some x := by
  cases x <;> decide

/-- So is an alignment. -/
theorem Alignment.readWord_word (x : Alignment) : readWord all word (.text x.word) = some x := by
  cases x <;> decide

/-- A color is read from its text. -/
theorem Color.ofValue_text (c : Color) : ofValue (.text c.text) = some c := by
  rw [ofValue, ofText_text]
  rfl

/-- The text of the number is read as the number. -/
def Number.Single.ReadsBack (x : Single) : Prop :=
  ∃ v, Data.readNumber x.text.toList = some (v, []) ∧ v.asSingle = some x

section Numbers

variable {x : Single}

/-- A number that reads back is read from its text. -/
theorem tree_of_readsBack (h : x.ReadsBack) :
    Json.IsNumber x.text ∧ (Json.numberTree x.text).asSingle = some x := by
  obtain ⟨v, hread, hv⟩ := h
  refine ⟨⟨v, hread⟩, ?_⟩
  unfold Json.numberTree
  rw [hread]
  exact hv

/-- A number is read from its tree if it is finite. -/
theorem asSingle_tree (h : x.isFinite = true → x.ReadsBack) :
    (Json.single x).tree.asSingle = if x.isFinite then some x else none := by
  rw [Json.tree]
  split
  · rename_i hfinite
    exact (tree_of_readsBack (h hfinite)).2
  · rfl

/-- The tree of a number is not broken. -/
theorem sound_tree_single (h : x.isFinite = true → x.ReadsBack) :
    (Json.single x).tree.sound = true := by
  rw [Json.tree]
  split
  · rename_i hfinite
    exact Value.sound_of_asSingle (tree_of_readsBack (h hfinite)).2
  · rfl

end Numbers

namespace ThemeAttribute

/-- The numbers of an attribute. -/
def numbers : ThemeAttribute → List Single
  | kerning x | headIndent x | tailIndent x | paragraphSpacingBefore x | paragraphSpacingAfter x
  | defaultTabInterval x => [x]
  | _ => []

/-- Whether an attribute has no handler for its link. -/
def IsPlain : ThemeAttribute → Prop
  | action _ handler => handler = none
  | _ => True

/-- Whether all numbers of an attribute are finite. -/
def hasFiniteNumbers (a : ThemeAttribute) : Bool := a.numbers.all Single.isFinite

/-- What is written for an attribute can be read. -/
def Writable (a : ThemeAttribute) : Prop :=
  a.IsPlain ∧ ∀ x ∈ a.numbers, x.isFinite = true → x.ReadsBack

/-- An attribute with a number is read if the number is finite. -/
theorem ofFields_number {make : Single → ThemeAttribute} {x : Single}
    (hmake : (make x).numbers = [x]) (h : (make x).Writable) :
    (do
      let fields ← Fields.ofValue true ["value"] (.record [("value", (Json.single x).tree)])
      return make (← fields.required 0 Value.asSingle)) =
      if (make x).hasFiniteNumbers then some (make x) else none := by
  have hx : x.isFinite = true → x.ReadsBack := h.2 x (by rw [hmake]; exact List.mem_cons_self)
  have hfinite : (make x).hasFiniteNumbers = x.isFinite := by simp [hasFiniteNumbers, hmake]
  have hfields : Fields.ofValue true ["value"] (.record [("value", (Json.single x).tree)]) =
      some ⟨[some (Json.single x).tree], false⟩ := rfl
  rw [hfields, hfinite]
  simp only [Option.bind_eq_bind, Option.bind_some, Fields.required_zero]
  rw [asSingle_tree hx]
  split <;> rfl

/-- What is read of the fields that are written for an attribute. -/
def ofWritten (a : ThemeAttribute) : Option ThemeAttribute :=
  ofFields a.kind fun names => Fields.ofValue true names (.record (Json.treeOfFields a.fields))

/-- A color is read back. -/
theorem ofWritten_color (c : Color) : (color c).ofWritten = some (color c) := by
  have hkind : ∀ fieldsOf, ofFields "color" fieldsOf = (fieldsOf ["color"] >>= fun fields =>
      fields.required 0 Color.ofValue >>= fun c => pure (color c)) := fun _ => rfl
  have hfields : Fields.ofValue true ["color"] (.record (Json.treeOfFields (color c).fields)) =
      some ⟨[some (.text c.text)], false⟩ := rfl
  refine (hkind _).trans ?_
  simp only [hfields, Option.bind_eq_bind, Option.bind_some, Fields.required_zero,
    Color.ofValue_text]
  rfl

/-- So is a background. -/
theorem ofWritten_backgroundColor (c : Color) (rounding : Rounding) (coloring : Coloring) :
    (backgroundColor c rounding coloring).ofWritten =
      some (backgroundColor c rounding coloring) := by
  have hkind : ∀ fieldsOf, ofFields "background_color" fieldsOf =
      (fieldsOf ["color", "rounding", "coloring"] >>= fun fields =>
        fields.required 0 Color.ofValue >>= fun c =>
        fields.defaulted 1 (readWord Rounding.all Rounding.word) .none >>= fun rounding =>
        fields.defaulted 2 (readWord Coloring.all Coloring.word) .text >>= fun coloring =>
          pure (backgroundColor c rounding coloring)) := fun _ => rfl
  have hfields : Fields.ofValue true ["color", "rounding", "coloring"]
      (.record (Json.treeOfFields (backgroundColor c rounding coloring).fields)) =
      some ⟨[some (.text c.text), some (.text rounding.word), some (.text coloring.word)],
        false⟩ := rfl
  refine (hkind _).trans ?_
  simp only [hfields, Option.bind_eq_bind, Option.bind_some, Fields.required_zero,
    Fields.defaulted_succ, Fields.defaulted_zero, Color.ofValue_text, rounding.readWord_word,
    coloring.readWord_word]
  rfl

/-- So is an underline. -/
theorem ofWritten_underline (c : Option Color) (style : UnderlineStyle) :
    (underline c style).ofWritten = some (underline c style) := by
  have hkind : ∀ fieldsOf, ofFields "underline" fieldsOf =
      (fieldsOf ["color", "style"] >>= fun fields =>
        fields.defaulted 0 (Value.asOption Color.ofValue) none >>= fun c =>
        fields.defaulted 1 (readWord UnderlineStyle.all UnderlineStyle.word) .single >>=
          fun style => pure (underline c style)) := fun _ => rfl
  have hfields : Fields.ofValue true ["color", "style"]
      (.record (Json.treeOfFields (underline c style).fields)) =
      some ⟨[c.map fun c => .text c.text, some (.text style.word)], false⟩ := by
    cases c <;> rfl
  refine (hkind _).trans ?_
  cases c with
  | none =>
    simp only [hfields, Option.bind_eq_bind, Option.bind_some, Option.map_none,
      Fields.defaulted_zero_none, Fields.defaulted_succ, Fields.defaulted_zero,
      style.readWord_word]
    rfl
  | some c =>
    have hcolor : Value.asOption Color.ofValue (.text c.text) = some (some c) := by
      rw [Value.asOption, Color.ofValue_text]
      · rfl
      · exact nofun
    simp only [hfields, Option.bind_eq_bind, Option.bind_some, Option.map_some, hcolor,
      Fields.defaulted_succ, Fields.defaulted_zero, style.readWord_word]
    rfl

/-- So is a level of ligatures. -/
theorem ofWritten_ligature (level : UInt8) :
    (ligature level).ofWritten = some (ligature level) := by
  have hkind : ∀ fieldsOf, ofFields "ligature" fieldsOf = (fieldsOf ["value"] >>= fun fields =>
      fields.required 0 (Value.asNatBelow (Nat.pow 2 8)) >>= fun level =>
        pure (ligature (.ofNat level))) := fun _ => rfl
  have hfields : Fields.ofValue true ["value"]
      (.record (Json.treeOfFields (ligature level).fields)) =
      some ⟨[some (Json.nat level.toNat).tree], false⟩ := rfl
  have hlevel : (Json.nat level.toNat).tree.asNatBelow (Nat.pow 2 8) = some level.toNat := by
    have hlt : (level.toNat : Int) < (Nat.pow 2 8 : Nat) := Int.ofNat_lt.2 level.toNat_lt
    have hexact : level.toNat < Nat.pow 2 64 := Nat.lt_trans level.toNat_lt (by decide)
    rw [Json.tree_nat hexact, Value.asNatBelow, if_pos ⟨Int.natCast_nonneg _, hlt⟩]
    rfl
  refine (hkind _).trans ?_
  simp only [hfields, Option.bind_eq_bind, Option.bind_some, Fields.required_zero, hlevel,
    UInt8.ofNat_toNat]
  rfl

/-- So is an alignment of paragraphs. -/
theorem ofWritten_alignment (side : Alignment) :
    (alignment side).ofWritten = some (alignment side) := by
  have hkind : ∀ fieldsOf, ofFields "alignment" fieldsOf =
      (fieldsOf ["alignment"] >>= fun fields =>
        fields.required 0 (readWord Alignment.all Alignment.word) >>= fun side =>
          pure (alignment side)) := fun _ => rfl
  have hfields : Fields.ofValue true ["alignment"]
      (.record (Json.treeOfFields (alignment side).fields)) =
      some ⟨[some (.text side.word)], false⟩ := rfl
  refine (hkind _).trans ?_
  simp only [hfields, Option.bind_eq_bind, Option.bind_some, Fields.required_zero,
    side.readWord_word]
  rfl

/-- The fields that are written for an attribute are read as it, if its numbers are finite. -/
theorem ofWritten_eq {a : ThemeAttribute} (h : a.Writable) :
    a.ofWritten = if a.hasFiniteNumbers then some a else none := by
  cases a with
  | color c => exact ofWritten_color c
  | backgroundColor c rounding coloring => exact ofWritten_backgroundColor c rounding coloring
  | bold => rfl
  | italic => rfl
  | underline c style => exact ofWritten_underline c style
  | kerning x => exact ofFields_number rfl h
  | ligature level => exact ofWritten_ligature level
  | headIndent x => exact ofFields_number rfl h
  | tailIndent x => exact ofFields_number rfl h
  | paragraphSpacingBefore x => exact ofFields_number rfl h
  | paragraphSpacingAfter x => exact ofFields_number rfl h
  | alignment side => exact ofWritten_alignment side
  | defaultTabInterval x => exact ofFields_number rfl h
  | action link handler =>
    obtain rfl : handler = none := h.1
    rfl
  | unsupported => rfl

/-- The fields of an attribute come behind its kind. -/
theorem ofValue_record {kind : String} {others : List (String × Value)}
    (hnames : ∀ field ∈ others, field.1 ≠ "type") (hsound : Value.fieldsSound others = true) :
    ofValue (.record (("type", .text kind) :: others)) =
      ofFields kind fun names => Fields.ofValue true names (.record others) := by
  have hfind : Fields.find (("type", .text kind) :: others) "type" =
      some (some (.text kind)) := by
    have hnone : others.filter (fun field => field.1 = "type") = [] := by
      rw [List.filter_eq_nil_iff]
      intro field hfield
      simpa using hnames field hfield
    unfold Fields.find
    rw [List.filter_cons_of_pos (by simp), hnone]
  have hothers : (("type", .text kind) :: others).filter (fun field => field.1 ≠ "type") =
      others := by
    rw [List.filter_cons_of_neg (by simp), List.filter_eq_self]
    intro field hfield
    simpa using hnames field hfield
  rw [ofValue, hfind, hothers]
  show (if Value.fieldsSound others then _ else none) = _
  rw [if_pos hsound]

/-- What the fields of an attribute hold. -/
theorem field_cases (a : ThemeAttribute) : ∀ field ∈ a.fields, field.1 ≠ "type" ∧
    ((∃ s, field.2 = .text s) ∨ (∃ n, n < 256 ∧ field.2 = .nat n) ∨
      ∃ x ∈ a.numbers, field.2 = .single x) := by
  intro field hfield
  cases a with
  | color c =>
    obtain rfl := List.mem_singleton.1 hfield
    exact ⟨by simp, Or.inl ⟨_, rfl⟩⟩
  | backgroundColor c rounding coloring =>
    simp only [fields, List.mem_cons, List.not_mem_nil, or_false] at hfield
    rcases hfield with rfl | rfl | rfl <;> exact ⟨by simp, Or.inl ⟨_, rfl⟩⟩
  | underline c style =>
    rcases List.mem_append.1 hfield with hcolor | hstyle
    · cases c with
      | none => exact absurd hcolor List.not_mem_nil
      | some c =>
        obtain rfl := List.mem_singleton.1 hcolor
        exact ⟨by simp, Or.inl ⟨_, rfl⟩⟩
    · obtain rfl := List.mem_singleton.1 hstyle
      exact ⟨by simp, Or.inl ⟨_, rfl⟩⟩
  | ligature level =>
    obtain rfl := List.mem_singleton.1 hfield
    exact ⟨by simp, Or.inr (Or.inl ⟨level.toNat, level.toNat_lt, rfl⟩)⟩
  | kerning x | headIndent x | tailIndent x | paragraphSpacingBefore x | paragraphSpacingAfter x
  | defaultTabInterval x =>
    obtain rfl := List.mem_singleton.1 hfield
    exact ⟨by simp, Or.inr (Or.inr ⟨x, List.mem_cons_self, rfl⟩)⟩
  | alignment side =>
    obtain rfl := List.mem_singleton.1 hfield
    exact ⟨by simp, Or.inl ⟨_, rfl⟩⟩
  | action link handler =>
    obtain rfl := List.mem_singleton.1 hfield
    exact ⟨by simp, Or.inl ⟨_, rfl⟩⟩
  | bold | italic | unsupported => exact absurd hfield List.not_mem_nil

/-- Nothing in the fields of an attribute is broken. -/
theorem sound_field {a : ThemeAttribute} (h : a.Writable) :
    ∀ field ∈ a.fields, field.2.tree.sound = true := by
  intro field hfield
  rcases (a.field_cases field hfield).2 with ⟨s, hs⟩ | ⟨n, hn, hnat⟩ | ⟨x, hx, hsingle⟩
  · rw [hs, Json.tree]
    rfl
  · rw [hnat, Json.tree_nat (Nat.lt_trans hn (by decide))]
    rfl
  · rw [hsingle]
    exact sound_tree_single (h.2 x hx)

/-- The fields of an attribute can be read. -/
theorem readable_field {a : ThemeAttribute} (h : a.Writable) (depth : Nat) :
    ∀ field ∈ a.fields, field.2.Readable depth := by
  intro field hfield
  rcases (a.field_cases field hfield).2 with ⟨s, hs⟩ | ⟨n, hn, hnat⟩ | ⟨x, hx, hsingle⟩
  · rw [hs]
    exact trivial
  · rw [hnat]
    exact Json.readable_nat n depth
  · rw [hsingle]
    exact fun hfinite => (tree_of_readsBack (h.2 x hx hfinite)).1

/-- **An attribute is read from what is written for it**, if its numbers are finite. -/
theorem ofValue_tree {a : ThemeAttribute} (h : a.Writable) :
    ofValue a.toJson.tree = if a.hasFiniteNumbers then some a else none := by
  have hnames : ∀ field ∈ Json.treeOfFields a.fields, field.1 ≠ "type" := by
    rw [Json.treeOfFields_eq_map]
    intro field hfield
    obtain ⟨written, hwritten, rfl⟩ := List.mem_map.1 hfield
    exact (a.field_cases written hwritten).1
  have hsound : Value.fieldsSound (Json.treeOfFields a.fields) = true := by
    rw [Json.treeOfFields_eq_map, Value.fieldsSound_iff]
    intro field hfield
    obtain ⟨written, hwritten, rfl⟩ := List.mem_map.1 hfield
    exact sound_field h written hwritten
  rw [← ofWritten_eq h]
  unfold ofWritten
  rw [← ofValue_record hnames hsound]
  unfold toJson
  rw [Json.tree, Json.treeOfFields, Json.tree]

/-- What is written for an attribute can be read. -/
theorem readable_toJson {a : ThemeAttribute} (h : a.Writable) {depth : Nat}
    (hdepth : depth < Data.maxDepth) : a.toJson.Readable depth := by
  refine ⟨hdepth, Json.readableFields_iff.2 ?_⟩
  intro field hfield
  rcases List.mem_cons.1 hfield with rfl | hfield
  · exact trivial
  · exact readable_field h (depth + 1) field hfield

/-- No handler is read. -/
theorem isPlain_of_ofFields {kind : String} {fieldsOf : List String → Option Fields}
    {a : ThemeAttribute} (h : ofFields kind fieldsOf = some a) : a.IsPlain := by
  unfold ofFields at h
  split at h
  all_goals
    simp only [Option.bind_eq_bind, Option.pure_def, Option.bind_eq_some_iff,
      Option.map_eq_some_iff, Option.some.injEq] at h
  case h_2 =>
    obtain ⟨_, _, _, _, _, _, _, _, rfl⟩ := h
    trivial
  case h_3 | h_4 | h_15 =>
    obtain ⟨_, _, rfl⟩ := h
    trivial
  case h_5 =>
    obtain ⟨_, _, _, _, _, _, rfl⟩ := h
    trivial
  case h_14 =>
    obtain ⟨_, _, _, _, rfl⟩ := h
    rfl
  -- The other kinds have one field.
  all_goals
    obtain ⟨_, _, _, _, rfl⟩ := h
    trivial

/-- An attribute that was read has no handler. -/
theorem isPlain_of_ofValue {v : Value} {a : ThemeAttribute} (h : ofValue v = some a) :
    a.IsPlain := by
  unfold ofValue at h
  split at h
  · simp only [Option.bind_eq_bind, Option.bind_eq_some_iff] at h
    obtain ⟨_, _, _, _, _, _, h⟩ := h
    split at h
    · exact isPlain_of_ofFields h
    · exact absurd h (by simp)
  · simp only [Option.bind_eq_bind, Option.bind_eq_some_iff] at h
    obtain ⟨_, _, h⟩ := h
    split at h
    · exact isPlain_of_ofFields h
    · exact absurd h (by simp)
  · exact absurd h (by simp)

end ThemeAttribute

end ScopePaint
