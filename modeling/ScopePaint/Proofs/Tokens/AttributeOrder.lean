import ScopePaint.Proofs.Tokens.Application

/-!
# The order of attributes

A set that attributes are merged into is told by them alone, however they are split up into lists: it
has the last attribute of each kind (`AttributeSet.mem_ofList_iff`), and the kinds stand in the order
in which they first occur (`AttributeSet.map_kind_ofList`). Merging some of its own attributes into
the set once more leaves it as it is (`AttributeSet.mergeAll_of_subset`).

The order does not matter when the attributes are written. An attribute has values of those kinds of
styling only that belong to its own kind, so of two attributes of different kinds one at most has
something to write on a given layer (`ThemeAttribute.onLayer_comm`), and the same holds for the
fields of a paragraph style. All orders of attributes of different kinds hence leave the same
(`AttributeSet.Distinct.foldl_perm`).
-/

set_option autoImplicit false

namespace ScopePaint

open Text (Span)

/-! ## Merging lists of attributes -/

namespace AttributeSet

variable {items attributes : List ThemeAttribute} {a : ThemeAttribute}

/-- Merge lists of attributes into the empty set. -/
def ofLists (lists : List (List ThemeAttribute)) : AttributeSet := lists.foldl mergeAll empty

/-- An attribute stands in a list, and none of its kind behind it. -/
def IsLast (attributes : List ThemeAttribute) (a : ThemeAttribute) : Prop :=
  ∃ front back, attributes = front ++ a :: back ∧ ∀ b ∈ back, b.kind ≠ a.kind

/-- How the attributes are split up into lists is of no account. -/
theorem ofLists_eq (lists : List (List ThemeAttribute)) : ofLists lists = ofList lists.flatten :=
  List.foldl_flatten.symm

/-- An element at the end counts if it is new. -/
theorem eraseDups_concat {α : Type} [DecidableEq α] (xs : List α) (x : α) :
    (xs ++ [x]).eraseDups = if x ∈ xs then xs.eraseDups else xs.eraseDups ++ [x] := by
  rw [List.eraseDups_append]
  by_cases hmem : x ∈ xs
  · have hnone : [x].removeAll xs = [] := by simp [List.removeAll, hmem]
    rw [if_pos hmem, hnone, List.eraseDups_nil, List.append_nil]
  · have hall : [x].removeAll xs = [x] := by simp [List.removeAll, hmem]
    rw [if_neg hmem, hall]
    rfl

/-- **The kinds stand in the order in which they first occur.** -/
theorem map_kind_ofList (attributes : List ThemeAttribute) :
    (ofList attributes).items.map ThemeAttribute.kind =
      (attributes.map ThemeAttribute.kind).eraseDups := by
  induction attributes using List.reverseRecOn with
  | nil => rfl
  | append_singleton xs a ih =>
    rw [ofList_concat, merge, map_kind_place, ih, List.map_append, List.map_singleton,
      eraseDups_concat]
    simp only [List.mem_eraseDups]

/-- **The set has the last attribute of each kind.** -/
theorem mem_ofList_iff : a ∈ (ofList attributes).items ↔ IsLast attributes a := by
  have hget : a ∈ (ofList attributes).items ↔ (ofList attributes).get? a.kind = some a := by
    rw [get?_eq_some_iff (distinct_ofList attributes), and_iff_left rfl]
  rw [hget, get?_ofList, List.find?_eq_some_iff_append]
  constructor
  · rintro ⟨-, back, front, hreverse, hback⟩
    refine ⟨front.reverse, back.reverse, ?_, ?_⟩
    · rw [← attributes.reverse_reverse, hreverse]
      simp
    · simpa using hback
  · rintro ⟨front, back, rfl, hback⟩
    refine ⟨by simp, back.reverse, front.reverse, by simp, ?_⟩
    simpa using hback

/-- An attribute of the set takes its own place. -/
theorem Distinct.place_of_mem (h : Distinct items) (ha : a ∈ items) :
    AttributeSet.place a items = items := by
  induction items with
  | nil => exact absurd ha List.not_mem_nil
  | cons b rest ih =>
    rw [AttributeSet.place]
    by_cases hkind : b.kind = a.kind
    · have hsame : b = a := List.inj_on_of_nodup_map h List.mem_cons_self ha hkind
      rw [if_pos hkind, hsame]
    · have hne : a ≠ b := fun heq => hkind (congrArg _ heq.symm)
      have hrest : Distinct rest := (List.nodup_cons.1 h).2
      rw [if_neg hkind, ih hrest (List.mem_of_ne_of_mem hne ha)]

/-- **Merging attributes of a set into it once more changes nothing.** -/
theorem mergeAll_of_subset {s : AttributeSet} (h : Distinct s.items)
    (hsub : ∀ a ∈ attributes, a ∈ s.items) : s.mergeAll attributes = s := by
  induction attributes with
  | nil => rfl
  | cons a rest ih =>
    obtain ⟨ha, hrest⟩ := List.forall_mem_cons.1 hsub
    have hmerge : s.merge a = s := by
      unfold merge
      rw [h.place_of_mem ha]
    have hcons : s.mergeAll (a :: rest) = (s.merge a).mergeAll rest := rfl
    rw [hcons, hmerge, ih hrest]

/-- **Attributes of different kinds can be taken in any order** by a step that any two of them can be
taken by in either order. -/
theorem Distinct.foldl_perm {β : Type} {f : β → ThemeAttribute → β} (h : Distinct attributes)
    (hcomm : ∀ a b, a.kind ≠ b.kind → ∀ z, f (f z a) b = f (f z b) a)
    (hperm : items.Perm attributes) (z : β) : items.foldl f z = attributes.foldl f z := by
  apply hperm.foldl_eq'
  intro a ha b hb z
  by_cases hkind : a.kind = b.kind
  · have hsame : a = b := List.inj_on_of_nodup_map h (hperm.subset ha) (hperm.subset hb) hkind
    rw [hsame]
  · exact hcomm a b hkind z

end AttributeSet

/-! ## Writing on one layer -/

/-- Put a value on a range of a layer, unless the range is empty. -/
def Layer.putUnlessEmpty (r : Span) (l : Layer) (v : StyleValue) : Layer :=
  if r.isEmpty then l else l.put r v

/-- A value is put into the layer of its key. -/
theorem StyledText.layer_set (t : StyledText) (r : Span) (v : StyleValue) (key : StyleKey) :
    (t.set r v).layer key =
      if v.key = key then (t.layer key).putUnlessEmpty (t.clamp r) v else t.layer key := by
  unfold StyledText.set Layer.putUnlessEmpty
  dsimp only
  split
  · split <;> rfl
  · rw [layer_modifyLayer]
    by_cases hkey : v.key = key
    · rw [if_pos hkey, if_pos hkey.symm, hkey]
    · rw [if_neg hkey, if_neg (Ne.symm hkey)]

namespace ThemeAttribute

variable {a b : ThemeAttribute} {key : StyleKey}

/-- What an attribute makes of the layer of a kind of styling. -/
def onLayer (key : StyleKey) (r : Span) (l : Layer) (a : ThemeAttribute) : Layer :=
  (a.values.filter fun v => v.key = key).foldl (Layer.putUnlessEmpty r) l

/-- An attribute leaves the layers alone that belong to other kinds of attributes. -/
theorem onLayer_of_kind_ne (h : a.kind ≠ key.writer) (r : Span) (l : Layer) :
    onLayer key r l a = l := by
  have hnone : a.values.filter (fun v => v.key = key) = [] := by
    rw [List.filter_eq_nil_iff]
    intro v hv hkey
    have hkind := kind_of_mem_values hv
    rw [of_decide_eq_true hkey] at hkind
    exact h hkind
  unfold onLayer
  rw [hnone, List.foldl_nil]

/-- Attributes of different kinds can be written on a layer in either order. -/
theorem onLayer_comm (h : a.kind ≠ b.kind) (key : StyleKey) (r : Span) (l : Layer) :
    onLayer key r (onLayer key r l a) b = onLayer key r (onLayer key r l b) a := by
  by_cases ha : a.kind = key.writer
  · have hb : b.kind ≠ key.writer := fun hb => h (ha.trans hb.symm)
    rw [onLayer_of_kind_ne hb, onLayer_of_kind_ne hb]
  · rw [onLayer_of_kind_ne ha, onLayer_of_kind_ne ha]

/-- Of several values those with its key are put into a layer. -/
theorem layer_foldl_set (r : Span) (vs : List StyleValue) (t : StyledText) (key : StyleKey) :
    (vs.foldl (fun t v => t.set r v) t).layer key =
      (vs.filter fun v => v.key = key).foldl (Layer.putUnlessEmpty (t.clamp r)) (t.layer key) := by
  induction vs generalizing t with
  | nil => rfl
  | cons v vs ih =>
    have hclamp := StyledText.clamp_eq_of_text_eq (StyledText.text_set t r v) r
    rw [List.foldl_cons, ih, hclamp, StyledText.layer_set]
    by_cases hkey : v.key = key
    · simp [hkey]
    · simp [hkey]

/-- **Writing attributes changes each layer on its own.** -/
theorem layer_writeAll (t : StyledText) (r : Span) (attributes : List ThemeAttribute)
    (key : StyleKey) : (t.writeAll r attributes).layer key =
      attributes.foldl (onLayer key (t.clamp r)) (t.layer key) := by
  induction attributes generalizing t with
  | nil => rfl
  | cons a rest ih =>
    have hcons : t.writeAll r (a :: rest) = (a.applyToRange t r).writeAll r rest := rfl
    have hclamp : (a.applyToRange t r).clamp r = t.clamp r :=
      StyledText.clamp_eq_of_text_eq (StyledText.text_foldl_set t r a.values) r
    have hlayer : (a.applyToRange t r).layer key = onLayer key (t.clamp r) (t.layer key) a :=
      layer_foldl_set r a.values t key
    rw [hcons, ih, hclamp, hlayer, List.foldl_cons]

end ThemeAttribute

/-! ## Any order -/

namespace AttributeSet

open TokenLine (write)

/-- **Attribute sets, and the order of their attributes.** A set that lists of attributes are merged
into is the one of all attributes one after the other. It has one attribute of each kind, in the
order in which the kinds first occur, each of them the last of its kind, and merging its own
attributes into it changes nothing. Written in whatever order, on whatever text and paragraph style,
its attributes leave the same stretches for each kind of styling and the same paragraph style. -/
theorem written_in_any_order (lists : List (List ThemeAttribute)) :
    ofLists lists = ofList lists.flatten ∧
    Distinct (ofLists lists).items ∧
    (ofLists lists).items.map ThemeAttribute.kind =
      (lists.flatten.map ThemeAttribute.kind).eraseDups ∧
    (∀ a, a ∈ (ofLists lists).items ↔ IsLast lists.flatten a) ∧
    (ofLists lists).mergeAll (ofLists lists).items = ofLists lists ∧
    ∀ items : List ThemeAttribute, items.Perm (ofLists lists).items →
      ∀ (text : StyledText) (range : Span) (p : ParagraphStyle),
        (∀ key, (items.foldl (write range) (text, p)).1.layer key =
          ((ofLists lists).items.foldl (write range) (text, p)).1.layer key) ∧
        (items.foldl (write range) (text, p)).2 =
          ((ofLists lists).items.foldl (write range) (text, p)).2 := by
  rw [ofLists_eq]
  have hdistinct := distinct_ofList lists.flatten
  refine ⟨rfl, hdistinct, map_kind_ofList _, fun a => mem_ofList_iff,
    mergeAll_of_subset hdistinct fun a ha => ha, ?_⟩
  intro items hperm text range p
  rw [TokenLine.foldl_write, TokenLine.foldl_write]
  constructor
  · intro key
    rw [ThemeAttribute.layer_writeAll, ThemeAttribute.layer_writeAll]
    exact hdistinct.foldl_perm
      (fun a b hkind l => ThemeAttribute.onLayer_comm hkind key (text.clamp range) l) hperm _
  · exact hdistinct.foldl_perm
      (fun a b hkind p => ThemeAttribute.applyToParagraph_comm (Ne.symm hkind) p) hperm p

/-- An underline that is given a color later on, a rounded background that is a plain one in the end,
and an indent. -/
def overridden : List (List ThemeAttribute) :=
  [[.underline none .single, .backgroundColor .white .full .text],
    [.headIndent ⟨0x40000000⟩, .backgroundColor .black .none .text,
      .underline (some .white) .dotted]]

/-- Written the other way around, the attributes leave the plain background, the color of the
underline and the indent as well. -/
theorem written_in_any_order_reversed :
    (ofLists overridden).items.reverse.Perm (ofLists overridden).items ∧
    (ofLists overridden).items = [.underline (some .white) .dotted,
      .backgroundColor .black .none .text, .headIndent ⟨0x40000000⟩] ∧
    ((ofLists overridden).items.reverse.foldl (write ⟨0, 1⟩) (.ofString "ab", {})).1.layer
      .underlineColor = [⟨⟨0, 1⟩, .underlineColor .white⟩] ∧
    ((ofLists overridden).items.reverse.foldl (write ⟨0, 1⟩) (.ofString "ab", {})).1.layer
      .roundedBackground = [] ∧
    ((ofLists overridden).items.reverse.foldl (write ⟨0, 1⟩) (.ofString "ab", {})).2 =
      { headIndent := ⟨0x40000000⟩ } := by
  have hperm := (ofLists overridden).items.reverse_perm
  obtain ⟨hlayer, hparagraph⟩ :=
    (written_in_any_order overridden).2.2.2.2.2 _ hperm (.ofString "ab") ⟨0, 1⟩ {}
  rw [hlayer, hlayer, hparagraph]
  exact ⟨hperm, by decide, by decide, by decide, by decide⟩

end AttributeSet

end ScopePaint
