import ScopePaint.Data.Value

/-!
# Lists and fields of data trees

A list is read from what is written for its items if each of them is (`Value.asList_map`), and so is
one that is left out where it is empty (`Fields.defaulted_list`). The fields of a record are taken
one after the other by their places.
-/

set_option autoImplicit false

namespace ScopePaint.Data

namespace Value

/-- Fields are sound if the value of each of them is. -/
theorem fieldsSound_iff {fields : List (String × Value)} :
    fieldsSound fields = true ↔ ∀ field ∈ fields, field.2.sound = true := by
  induction fields with
  | nil => simp [fieldsSound]
  | cons field rest ih =>
    obtain ⟨name, v⟩ := field
    simp [fieldsSound, ih]

/-- What is read as a number is not broken. -/
theorem sound_of_asSingle {v : Value} {x : Number.Single} (h : v.asSingle = some x) :
    v.sound = true := by
  cases v <;> first | rfl | exact absurd h (by simp [asSingle])

/-- A list is read from what is written for its items if each of them is. -/
theorem asList_map {α : Type} {encode : α → Value} {decode : Value → Option α} {p : α → Bool}
    {items : List α} (h : ∀ a ∈ items, decode (encode a) = if p a then some a else none) :
    asList decode (list (items.map encode)) = if items.all p then some items else none := by
  show (items.map encode).mapM decode = _
  induction items with
  | nil => rfl
  | cons a rest ih =>
    rw [List.map_cons, List.mapM_cons, h a List.mem_cons_self,
      ih fun b hb => h b (List.mem_cons_of_mem a hb), List.all_cons]
    cases p a <;> cases rest.all p <;> rfl

/-- What is read as a list is read item by item. -/
theorem mem_of_asList {α : Type} {decode : Value → Option α} {v : Value} {items : List α}
    (h : v.asList decode = some items) : ∀ a ∈ items, ∃ w, decode w = some a := by
  cases v with
  | list values =>
    replace h : values.mapM decode = some items := h
    induction values generalizing items with
    | nil =>
      obtain rfl : [] = items := Option.some.inj h
      exact fun a ha => absurd ha List.not_mem_nil
    | cons w rest ih =>
      rw [List.mapM_cons] at h
      obtain ⟨b, hb, h⟩ := Option.bind_eq_some_iff.1 h
      obtain ⟨others, hothers, h⟩ := Option.bind_eq_some_iff.1 h
      obtain rfl : b :: others = items := Option.some.inj h
      intro a ha
      rcases List.mem_cons.1 ha with rfl | ha
      · exact ⟨w, hb⟩
      · exact ih hothers a ha
  | null | bool | integer | real | text | record | broken => exact absurd h (by simp [asList])

end Value

namespace Fields

section Places

variable {α : Type} (v : Value) (first : Option Value) (rest : List (Option Value))
  (positional : Bool) (index : Nat) (decode : Value → Option α) (default : α)

/-- The first field is read from the first value. -/
@[simp] theorem required_zero : required ⟨some v :: rest, positional⟩ 0 decode = decode v := rfl

/-- The other fields are read from the values behind it. -/
@[simp] theorem required_succ : required ⟨first :: rest, positional⟩ (index + 1) decode =
    required ⟨rest, positional⟩ index decode := rfl

/-- A first field that is given does not take its default. -/
@[simp] theorem defaulted_zero :
    defaulted ⟨some v :: rest, positional⟩ 0 decode default = decode v := rfl

/-- A first field that is not given takes its default. -/
@[simp] theorem defaulted_zero_none :
    defaulted ⟨none :: rest, positional⟩ 0 decode default = some default := rfl

/-- The other fields with a default are read from the values behind it. -/
@[simp] theorem defaulted_succ : defaulted ⟨first :: rest, positional⟩ (index + 1) decode default =
    defaulted ⟨rest, positional⟩ index decode default := rfl

end Places

/-- A list that is left out if it is empty is read in either case. -/
theorem defaulted_list {α : Type} {encode : α → Value} {decode : Value → Option α} {p : α → Bool}
    {items : List α} (h : ∀ a ∈ items, decode (encode a) = if p a then some a else none)
    (rest : List (Option Value)) (positional : Bool) :
    defaulted ⟨(if items.isEmpty then none else some (.list (items.map encode))) :: rest,
      positional⟩ 0 (Value.asList decode) [] = if items.all p then some items else none := by
  cases items with
  | nil => rfl
  | cons a others => exact Value.asList_map h

end Fields

end ScopePaint.Data
