import Mathlib.Data.List.Induction
import Mathlib.Data.List.Nodup
import ScopePaint.Theme.Attribute

/-!
# Which attributes count

Attributes count in two ways. In an attribute set the last one of each kind counts
(`AttributeSet.get?_mergeAll`). When attributes are written one after the other, the last value of
each kind of styling counts (`ThemeAttribute.lastValue`). Only attributes of one kind have values of
a given kind of styling, but not all of them need to have one; so what is written last need not come
from the attribute that counts in the set. It does so precisely where that attribute has a value if
any of its kind has (`ThemeAttribute.lastValue_eq_iff`). For the styling of paragraphs there is no
such difference (`ThemeAttribute.paragraph_ofList`).
-/

set_option autoImplicit false

namespace ScopePaint

/-! ## Attribute sets -/

namespace AttributeSet

/-- No two attributes of a list are of the same kind. -/
def Distinct (items : List ThemeAttribute) : Prop := (items.map ThemeAttribute.kind).Nodup

/-- An attribute takes the place of the one of its kind, or a new one at the end. -/
theorem map_kind_place (a : ThemeAttribute) (items : List ThemeAttribute) :
    (place a items).map ThemeAttribute.kind =
      if a.kind ∈ items.map ThemeAttribute.kind then items.map ThemeAttribute.kind
      else items.map ThemeAttribute.kind ++ [a.kind] := by
  induction items with
  | nil => rfl
  | cons b rest ih =>
    rw [place]
    by_cases hkind : b.kind = a.kind
    · simp [hkind]
    · rw [if_neg hkind, List.map_cons, ih, List.map_cons]
      simp only [List.mem_cons, Ne.symm hkind, false_or]
      split <;> rfl

/-- Kinds stay distinct. -/
theorem Distinct.place {items : List ThemeAttribute} (h : Distinct items) (a : ThemeAttribute) :
    Distinct (place a items) := by
  unfold Distinct
  rw [map_kind_place]
  split
  · exact h
  · rename_i hnot
    exact List.nodup_append.2 ⟨h, List.nodup_singleton _, by
      rintro kind hkind _ hmem rfl
      rw [List.mem_singleton.1 hmem] at hkind
      exact hnot hkind⟩

/-- They stay distinct when several attributes are merged. -/
theorem Distinct.mergeAll {s : AttributeSet} (h : Distinct s.items)
    (attributes : List ThemeAttribute) : Distinct (s.mergeAll attributes).items := by
  induction attributes generalizing s with
  | nil => exact h
  | cons a rest ih => exact ih (s := s.merge a) (h.place a)

/-- A set of attributes has one of each kind. -/
theorem distinct_ofList (attributes : List ThemeAttribute) :
    Distinct (ofList attributes).items :=
  Distinct.mergeAll (s := empty) List.nodup_nil attributes

/-- The last attribute is merged into the set of the others. -/
theorem ofList_concat (attributes : List ThemeAttribute) (a : ThemeAttribute) :
    ofList (attributes ++ [a]) = (ofList attributes).merge a := by
  unfold ofList mergeAll
  rw [List.foldl_append]
  rfl

/-- A merged attribute is the one of its kind. -/
theorem get?_merge (s : AttributeSet) (a : ThemeAttribute) (kind : String) :
    (s.merge a).get? kind = if a.kind = kind then some a else s.get? kind := by
  unfold merge get?
  dsimp only
  induction s.items with
  | nil => by_cases ha : a.kind = kind <;> simp [place, ha]
  | cons b rest ih =>
    rw [place]
    by_cases hkind : b.kind = a.kind
    · rw [if_pos hkind]
      by_cases ha : a.kind = kind
      · simp [ha]
      · simp [ha, hkind]
    · rw [if_neg hkind]
      by_cases hb : b.kind = kind
      · have ha : ¬ a.kind = kind := fun ha => hkind (hb.trans ha.symm)
        simp [ha, hb]
      · simp only [hb, List.find?_cons, decide_false, ih]

/-- **The last attribute of a kind counts.** -/
theorem get?_mergeAll (s : AttributeSet) (attributes : List ThemeAttribute) (kind : String) :
    (s.mergeAll attributes).get? kind =
      (attributes.reverse.find? fun a => a.kind = kind).or (s.get? kind) := by
  induction attributes generalizing s with
  | nil => rfl
  | cons a rest ih =>
    have hcons : s.mergeAll (a :: rest) = (s.merge a).mergeAll rest := rfl
    rw [hcons, ih, get?_merge, List.reverse_cons, List.find?_append, Option.or_assoc]
    by_cases ha : a.kind = kind
    · simp [ha]
    · simp [ha]

/-- The attribute of a kind is the last one of it. -/
theorem get?_ofList (attributes : List ThemeAttribute) (kind : String) :
    (ofList attributes).get? kind = attributes.reverse.find? fun a => a.kind = kind := by
  rw [ofList, get?_mergeAll, show empty.get? kind = none from rfl, Option.or_none]

/-- The attribute of a kind is the one that has it. -/
theorem get?_eq_some_iff {s : AttributeSet} (h : Distinct s.items) {kind : String}
    {a : ThemeAttribute} : s.get? kind = some a ↔ a ∈ s.items ∧ a.kind = kind := by
  unfold get?
  constructor
  · intro hfind
    exact ⟨List.mem_of_find?_eq_some hfind, by simpa using List.find?_some hfind⟩
  · rintro ⟨hmem, hkind⟩
    cases hfind : s.items.find? fun b => b.kind = kind with
    | none => exact absurd hkind (by simpa using List.find?_eq_none.1 hfind a hmem)
    | some b =>
      have hb : b.kind = kind := by simpa using List.find?_some hfind
      have hsame := List.inj_on_of_nodup_map h (List.mem_of_find?_eq_some hfind) hmem
        (hb.trans hkind.symm)
      rw [hsame]

end AttributeSet

/-! ## Writing on texts -/

/-- The kind of the attributes that have values of a kind of styling; for paragraphs there is no
such kind. -/
def StyleKey.writer : StyleKey → String
  | foreground => "color"
  | background | roundedBackground => "background_color"
  | bold => "bold"
  | italic => "italic"
  | underlineStyle | underlineColor => "underline"
  | kerning => "kerning"
  | ligature => "ligature"
  | link | linkHandler => "action"
  | paragraphStyle => ""

/-- The kinds of styling that some attributes have a value of and others of the same kind do not. -/
def StyleKey.omitted : List StyleKey :=
  [background, roundedBackground, underlineColor, linkHandler]

namespace ThemeAttribute

/-- An attribute has a value of a kind of styling. -/
def Writes (a : ThemeAttribute) (key : StyleKey) : Prop := ∃ v ∈ a.values, v.key = key

instance (a : ThemeAttribute) (key : StyleKey) : Decidable (a.Writes key) :=
  inferInstanceAs (Decidable (∃ v ∈ a.values, v.key = key))

/-- The value of a kind of styling that writing an attribute leaves. -/
def valueFor? (a : ThemeAttribute) (key : StyleKey) : Option StyleValue :=
  a.values.reverse.find? fun v => v.key = key

/-- What is left for a kind of styling when attributes are written where something was before. -/
def lastValue (key : StyleKey) (before : Option StyleValue) (attributes : List ThemeAttribute) :
    Option StyleValue :=
  attributes.foldl (fun value a => (a.valueFor? key).or value) before

/-- The values of an attribute are for the keys that its kind writes. -/
theorem kind_of_mem_values {a : ThemeAttribute} {v : StyleValue} (h : v ∈ a.values) :
    a.kind = v.key.writer := by
  cases a with
  | backgroundColor c rounding coloring => cases rounding <;> simp [values] at h <;> subst h <;> rfl
  | underline c style =>
    cases c <;> simp [values] at h
    · subst h; rfl
    · rcases h with rfl | rfl <;> rfl
  | action link handler =>
    cases handler <;> simp [values] at h
    · subst h; rfl
    · rcases h with rfl | rfl <;> rfl
  | _ => simp [values] at h <;> subst h <;> rfl

/-- Only one kind writes to a key. -/
theorem Writes.kind_eq {a : ThemeAttribute} {key : StyleKey} (h : a.Writes key) :
    a.kind = key.writer := by
  obtain ⟨v, hv, rfl⟩ := h
  exact kind_of_mem_values hv

/-- All attributes of a kind have a value of a kind of styling that none of them leaves out. -/
theorem Writes.of_kind_eq {a b : ThemeAttribute} {key : StyleKey} (hkey : key ∉ StyleKey.omitted)
    (hkind : b.kind = a.kind) (h : a.Writes key) : b.Writes key := by
  have hb : b.kind = key.writer := hkind.trans h.kind_eq
  cases key with
  | background | roundedBackground | underlineColor | linkHandler => exact absurd (by decide) hkey
  | _ =>
    cases b <;> first
    | exact ⟨_, List.mem_cons_self, rfl⟩
    | exact absurd hb (by simp [kind, StyleKey.writer])

/-- An attribute has no value for the keys it does not write. -/
theorem valueFor?_eq_none_iff {a : ThemeAttribute} {key : StyleKey} :
    a.valueFor? key = none ↔ ¬ a.Writes key := by
  unfold valueFor? Writes
  simp

/-- Attributes of other kinds have no value for a key. -/
theorem valueFor?_eq_none {a : ThemeAttribute} {key : StyleKey} (h : a.kind ≠ key.writer) :
    a.valueFor? key = none := by
  rw [valueFor?_eq_none_iff]
  exact fun hwrites => h hwrites.kind_eq

section LastValue

variable (key : StyleKey)

/-- The last value of two lists is that of the second, begun with that of the first. -/
theorem lastValue_append (before : Option StyleValue) (xs ys : List ThemeAttribute) :
    lastValue key before (xs ++ ys) = lastValue key (lastValue key before xs) ys :=
  List.foldl_append

/-- The last attribute decides if it has a value for the key. -/
theorem lastValue_concat (before : Option StyleValue) (xs : List ThemeAttribute)
    (a : ThemeAttribute) :
    lastValue key before (xs ++ [a]) = (a.valueFor? key).or (lastValue key before xs) :=
  lastValue_append key before xs [a]

/-- Attributes of other kinds leave what was before. -/
theorem lastValue_of_kinds_ne {attributes : List ThemeAttribute}
    (h : ∀ a ∈ attributes, a.kind ≠ key.writer) (before : Option StyleValue) :
    lastValue key before attributes = before := by
  induction attributes generalizing before with
  | nil => rfl
  | cons a rest ih =>
    obtain ⟨ha, hrest⟩ := List.forall_mem_cons.1 h
    have hcons : lastValue key before (a :: rest) =
        lastValue key ((a.valueFor? key).or before) rest := rfl
    rw [hcons, valueFor?_eq_none ha, Option.none_or, ih hrest]

/-- No attribute is written as the style of a paragraph. -/
theorem lastValue_paragraphStyle (before : Option StyleValue) (attributes : List ThemeAttribute) :
    lastValue .paragraphStyle before attributes = before := by
  refine lastValue_of_kinds_ne .paragraphStyle (fun a _ => ?_) before
  cases a <;> simp [kind, StyleKey.writer]

/-- Nothing is left precisely if nothing is written. -/
theorem lastValue_eq_none_iff (attributes : List ThemeAttribute) :
    lastValue key none attributes = none ↔ ∀ a ∈ attributes, ¬ a.Writes key := by
  induction attributes using List.reverseRecOn with
  | nil => simp [lastValue]
  | append_singleton xs a ih =>
    rw [lastValue_concat, Option.or_eq_none_iff, ih, valueFor?_eq_none_iff]
    simp only [List.mem_append, List.mem_singleton, or_imp, forall_and, forall_eq]
    exact and_comm

/-- What the last attribute of the right kind writes is left. -/
theorem lastValue_of_find? {attributes : List ThemeAttribute} {a : ThemeAttribute}
    {v : StyleValue}
    (h : attributes.reverse.find? (fun b => b.kind = key.writer) = some a)
    (hv : a.valueFor? key = some v) : lastValue key none attributes = some v := by
  induction attributes using List.reverseRecOn with
  | nil => exact absurd h (by simp)
  | append_singleton xs b ih =>
    rw [List.reverse_append, List.reverse_singleton, List.singleton_append] at h
    rw [lastValue_concat]
    by_cases hb : b.kind = key.writer
    · rw [List.find?_cons_of_pos (by simpa using hb)] at h
      obtain rfl := Option.some.inj h
      rw [hv, Option.some_or]
    · rw [List.find?_cons_of_neg (by simpa using hb)] at h
      rw [valueFor?_eq_none hb, Option.none_or, ih h]

/-- Of attributes of different kinds only one can leave something. -/
theorem lastValue_of_distinct {s : AttributeSet} (h : AttributeSet.Distinct s.items) :
    lastValue key none s.items = (s.get? key.writer).bind fun a => a.valueFor? key := by
  cases hget : s.get? key.writer with
  | none =>
    rw [Option.bind_none]
    refine lastValue_of_kinds_ne key (fun a ha hkind => ?_) none
    rw [(AttributeSet.get?_eq_some_iff h).2 ⟨ha, hkind⟩] at hget
    exact absurd hget (by simp)
  | some a =>
    obtain ⟨hmem, hkind⟩ := (AttributeSet.get?_eq_some_iff h).1 hget
    obtain ⟨front, back, hitems⟩ := List.append_of_mem hmem
    rw [AttributeSet.Distinct, hitems, List.map_append, List.map_cons, List.nodup_middle,
      List.nodup_cons, ← List.map_append, hkind] at h
    have hother : ∀ b ∈ front ++ back, b.kind ≠ key.writer := fun b hb heq =>
      h.1 (List.mem_map.2 ⟨b, hb, heq⟩)
    rw [hitems, lastValue_append,
      lastValue_of_kinds_ne key (fun b hb => hother b (List.mem_append_left _ hb))]
    have hcons : lastValue key none (a :: back) = lastValue key ((a.valueFor? key).or none) back :=
      rfl
    rw [hcons, lastValue_of_kinds_ne key (fun b hb => hother b (List.mem_append_right _ hb)),
      Option.or_none, Option.bind_some]

/-- **What is written last comes from the attribute that counts**, or nothing is left where it has
no value, precisely if this attribute has a value whenever another one of its kind has. -/
theorem lastValue_eq_iff (attributes : List ThemeAttribute) :
    lastValue key none attributes = lastValue key none (AttributeSet.ofList attributes).items ↔
      ∀ a ∈ attributes, ∀ b ∈ (AttributeSet.ofList attributes).items, b.kind = a.kind →
        a.Writes key → b.Writes key := by
  have hdistinct := AttributeSet.distinct_ofList attributes
  rw [lastValue_of_distinct key hdistinct]
  cases hget : (AttributeSet.ofList attributes).get? key.writer with
  | none =>
    have hnone : ∀ a ∈ attributes, ¬ a.Writes key := by
      intro a ha hwrites
      rw [AttributeSet.get?_ofList, List.find?_eq_none] at hget
      exact hget a (List.mem_reverse.2 ha) (by simpa using hwrites.kind_eq)
    rw [Option.bind_none, lastValue_eq_none_iff]
    exact iff_of_true hnone fun a ha b _ _ hwrites => absurd hwrites (hnone a ha)
  | some b =>
    obtain ⟨hmem, hb⟩ := (AttributeSet.get?_eq_some_iff hdistinct).1 hget
    rw [Option.bind_some]
    by_cases hwrites : b.Writes key
    · obtain ⟨v, hv⟩ := Option.ne_none_iff_exists'.1 (mt valueFor?_eq_none_iff.1 (not_not.2 hwrites))
      rw [AttributeSet.get?_ofList] at hget
      rw [hv]
      refine iff_of_true (lastValue_of_find? key hget hv) ?_
      intro a ha b' hb' hsame hwrites'
      have hget' :=
        (AttributeSet.get?_eq_some_iff hdistinct).2 ⟨hb', hsame.trans hwrites'.kind_eq⟩
      rw [AttributeSet.get?_ofList] at hget'
      obtain rfl := Option.some.inj (hget.symm.trans hget')
      exact hwrites
    · rw [valueFor?_eq_none_iff.2 hwrites, lastValue_eq_none_iff]
      refine ⟨fun hnone a ha b' _ _ hwrites' => absurd hwrites' (hnone a ha), ?_⟩
      intro hhides a ha hwrites'
      exact hwrites (hhides a ha b hmem (hb.trans hwrites'.kind_eq.symm) hwrites')

end LastValue

/-! ## Writing on paragraphs -/

/-- Attributes of different kinds can be written on a paragraph in any order. -/
theorem applyToParagraph_comm {a b : ThemeAttribute} (h : a.kind ≠ b.kind) (p : ParagraphStyle) :
    a.applyToParagraph (b.applyToParagraph p) = b.applyToParagraph (a.applyToParagraph p) := by
  cases a <;> try rfl
  all_goals
    cases b <;> first
    | rfl
    | exact absurd rfl h

/-- An attribute of the same kind leaves nothing of what was written before. -/
theorem applyToParagraph_of_kind_eq {a b : ThemeAttribute} (h : a.kind = b.kind)
    (p : ParagraphStyle) : a.applyToParagraph (b.applyToParagraph p) = a.applyToParagraph p := by
  cases a <;> cases b <;> first
  | rfl
  | exact absurd h (by simp [kind])

/-- What attributes leave of a paragraph when they are written one after the other. -/
def paragraph (p : ParagraphStyle) (attributes : List ThemeAttribute) : ParagraphStyle :=
  attributes.foldl (fun p a => a.applyToParagraph p) p

/-- An attribute can be applied before others of other kinds. -/
theorem paragraph_applyToParagraph {a : ThemeAttribute} {attributes : List ThemeAttribute}
    (h : ∀ b ∈ attributes, b.kind ≠ a.kind) (p : ParagraphStyle) :
    paragraph (a.applyToParagraph p) attributes = a.applyToParagraph (paragraph p attributes) := by
  induction attributes generalizing p with
  | nil => rfl
  | cons b rest ih =>
    obtain ⟨hb, hrest⟩ := List.forall_mem_cons.1 h
    have hcons : ∀ q, paragraph q (b :: rest) = paragraph (b.applyToParagraph q) rest :=
      fun _ => rfl
    rw [hcons, hcons, applyToParagraph_comm hb, ih hrest]

/-- An attribute that takes its place in a set has the last word. -/
theorem paragraph_place {items : List ThemeAttribute} (h : AttributeSet.Distinct items)
    (a : ThemeAttribute) (p : ParagraphStyle) :
    paragraph p (AttributeSet.place a items) = a.applyToParagraph (paragraph p items) := by
  induction items generalizing p with
  | nil => rfl
  | cons b rest ih =>
    obtain ⟨hb, hrest⟩ := List.nodup_cons.1 h
    have hcons : ∀ c q, paragraph q (c :: rest) = paragraph (c.applyToParagraph q) rest :=
      fun _ _ => rfl
    rw [AttributeSet.place]
    by_cases hkind : b.kind = a.kind
    · have hother : ∀ c ∈ rest, c.kind ≠ a.kind := fun c hc heq =>
        hb (List.mem_map.2 ⟨c, hc, heq.trans hkind.symm⟩)
      rw [if_pos hkind, hcons, hcons, ← paragraph_applyToParagraph hother,
        applyToParagraph_of_kind_eq hkind.symm]
    · rw [if_neg hkind]
      exact ih hrest (b.applyToParagraph p)

/-- **A paragraph is styled by the attributes that count.** -/
theorem paragraph_ofList (attributes : List ThemeAttribute) (p : ParagraphStyle) :
    paragraph p (AttributeSet.ofList attributes).items = paragraph p attributes := by
  induction attributes using List.reverseRecOn with
  | nil => rfl
  | append_singleton xs a ih =>
    rw [AttributeSet.ofList_concat, AttributeSet.merge,
      paragraph_place (AttributeSet.distinct_ofList xs), ih]
    simp [paragraph]

end ThemeAttribute

end ScopePaint
