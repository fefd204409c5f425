import Mathlib.Data.List.DropRight
import ScopePaint.Proofs.Data.JsonTexts

/-!
# Reading values in JSON

Blanks in front of a value are skipped (`readValue_blanks`). A value is read from its text if its
parts are: one lemma says so for each form of a value, and one for each end of the parts of a list
or a record. What is read from a written value is its tree (`Json.tree`). Numbers have to be such
that their texts are read, and lists and records must not lie too deep (`Json.Readable`). A number
that is not finite is written as a null, and so its tree is that.
-/

set_option autoImplicit false

namespace ScopePaint.Data

/-! ## Blanks -/

/-- Nothing is skipped in front of a character that is no blank. -/
theorem skipBlanks_cons {c : Char} (h : isBlank c = false) (cs : List Char) :
    skipBlanks (c :: cs) = c :: cs := by
  simp [skipBlanks, h]

/-- There are no blanks left once they are skipped. -/
theorem skipBlanks_idem (cs : List Char) : skipBlanks (skipBlanks cs) = skipBlanks cs := by
  unfold skipBlanks
  exact List.dropWhile_idempotent isBlank cs

/-- Blanks are skipped. -/
theorem skipBlanks_append {blanks : List Char} (h : ∀ c ∈ blanks, isBlank c = true)
    (cs : List Char) : skipBlanks (blanks ++ cs) = skipBlanks cs := by
  unfold skipBlanks
  exact List.dropWhile_append_of_pos h

/-- Nothing goes on with a number at the end of a text. -/
theorem endsNumber_nil : EndsNumber [] := fun c hc => absurd hc (by simp)

/-- Most characters cannot go on with a number. -/
theorem endsNumber_cons {c : Char} (h : c.isDigit = false ∧ c ≠ '.' ∧ c ≠ 'e' ∧ c ≠ 'E')
    (cs : List Char) : EndsNumber (c :: cs) := by
  intro other hother
  obtain rfl : c = other := by simpa using hother
  exact h

/-- Neither can blanks. -/
theorem EndsNumber.behind_blanks {blanks rest : List Char} (h : ∀ c ∈ blanks, isBlank c = true)
    (hrest : EndsNumber rest) : EndsNumber (blanks ++ rest) := by
  cases blanks with
  | nil => exact hrest
  | cons c blanks =>
    have hc := h c List.mem_cons_self
    unfold isBlank at hc
    simp only [Bool.or_eq_true, beq_iff_eq] at hc
    refine endsNumber_cons ?_ (blanks ++ rest)
    rcases hc with ((rfl | rfl) | rfl) | rfl <;> decide

/-! ## Reading values -/

section Reading

variable {cs rest : List Char} {fuel depth : Nat}

/-- A value is read in the same way with and without the blanks in front of it. -/
theorem readValue_skipBlanks (fuel depth : Nat) (cs : List Char) :
    readValue fuel depth (skipBlanks cs) = readValue fuel depth cs := by
  cases fuel with
  | zero => rw [readValue, readValue]
  | succ fuel => unfold readValue; rw [skipBlanks_idem]

/-- So are the items of a list. -/
theorem readItems_skipBlanks (fuel depth : Nat) (cs : List Char) :
    readItems fuel depth (skipBlanks cs) = readItems fuel depth cs := by
  cases fuel with
  | zero => rw [readItems, readItems]
  | succ fuel => unfold readItems; rw [readValue_skipBlanks]

/-- So are the fields of a record. -/
theorem readFields_skipBlanks (fuel depth : Nat) (cs : List Char) :
    readFields fuel depth (skipBlanks cs) = readFields fuel depth cs := by
  cases fuel with
  | zero => rw [readFields, readFields]
  | succ fuel => unfold readFields; rw [skipBlanks_idem]

/-- Blanks in front of a value are skipped. -/
theorem readValue_blanks {blanks : List Char} (h : ∀ c ∈ blanks, isBlank c = true)
    (fuel depth : Nat) (cs : List Char) :
    readValue fuel depth (blanks ++ cs) = readValue fuel depth cs := by
  rw [← readValue_skipBlanks, skipBlanks_append h, readValue_skipBlanks]

/-- A text between quotes is read as a text. -/
theorem readValue_quote (s : String) (fuel depth : Nat) (rest : List Char) :
    readValue (fuel + 1) depth ((Json.quote s).toList ++ rest) = some (.text s, rest) := by
  have hquote : (Json.quote s).toList ++ rest =
      '"' :: (s.toList.flatMap Json.escapeChar ++ '"' :: rest) := by
    simp [Json.quote]
  have hblank : isBlank '"' = false := by decide
  rw [hquote, readValue, skipBlanks_cons hblank]
  exact congrArg (Option.map _) (readText_quote s rest)

/-- What begins a number begins nothing else. -/
theorem isBlank_of_number {c : Char} (hc : c = '-' ∨ c.isDigit = true) :
    isBlank c = false ∧ c ≠ 'n' ∧ c ≠ 't' ∧ c ≠ 'f' ∧ c ≠ '"' ∧ c ≠ '[' ∧ c ≠ '\x7b' := by
  rcases hc with rfl | hc
  · decide
  · refine ⟨?_, ?_, ?_, ?_, ?_, ?_, ?_⟩
    · refine Bool.eq_false_iff.2 fun hblank => ?_
      unfold isBlank at hblank
      simp only [Bool.or_eq_true, beq_iff_eq] at hblank
      rcases hblank with ((rfl | rfl) | rfl) | rfl <;> exact absurd hc (by decide)
    all_goals
      rintro rfl
      exact absurd hc (by decide)

/-- What begins no word, text, list or record is read as a number. -/
theorem readValue_eq_readNumber {c : Char} (hc : c = '-' ∨ c.isDigit = true) (fuel depth : Nat) :
    readValue (fuel + 1) depth (c :: cs) = readNumber (c :: cs) := by
  obtain ⟨hblank, hn, ht, hf, hquote, hbracket, hbrace⟩ := isBlank_of_number hc
  rw [readValue, skipBlanks_cons hblank]
  split
  · rename_i heq
    exact absurd heq (by simp)
  · rename_i heq
    exact absurd (List.cons.inj heq).1 hn
  · rename_i heq
    exact absurd (List.cons.inj heq).1 ht
  · rename_i heq
    exact absurd (List.cons.inj heq).1 hf
  · rename_i heq
    exact absurd (List.cons.inj heq).1 hquote
  · rename_i heq
    exact absurd (List.cons.inj heq).1 hbracket
  · rename_i heq
    exact absurd (List.cons.inj heq).1 hbrace
  · rfl

/-- A number is read up to what ends it. -/
theorem readValue_number {v : Value} (h : readNumber cs = some (v, [])) (hrest : EndsNumber rest)
    (fuel depth : Nat) : readValue (fuel + 1) depth (cs ++ rest) = some (v, rest) := by
  obtain ⟨c, tail, rfl, hc⟩ := head_of_readNumber h
  rw [List.cons_append, readValue_eq_readNumber hc]
  exact readNumber_append h hrest

/-- A null is read. -/
theorem readValue_null (fuel depth : Nat) (rest : List Char) :
    readValue (fuel + 1) depth ("null".toList ++ rest) = some (.null, rest) := by
  show readValue (fuel + 1) depth ('n' :: ('u' :: 'l' :: 'l' :: rest)) = _
  rw [readValue, skipBlanks_cons (by decide)]
  rfl

/-- Both truth values are read. -/
theorem readValue_bool (b : Bool) (fuel depth : Nat) (rest : List Char) :
    readValue (fuel + 1) depth ((if b then "true" else "false").toList ++ rest) =
      some (.bool b, rest) := by
  cases b with
  | false =>
    show readValue (fuel + 1) depth ('f' :: ('a' :: 'l' :: 's' :: 'e' :: rest)) = _
    rw [readValue, skipBlanks_cons (by decide)]
    rfl
  | true =>
    show readValue (fuel + 1) depth ('t' :: ('r' :: 'u' :: 'e' :: rest)) = _
    rw [readValue, skipBlanks_cons (by decide)]
    rfl

/-- What does not lie too deep is not broken. -/
theorem nested_of_lt (h : depth < maxDepth) (v : Value) : nested (depth + 1) v = v :=
  if_neg (by omega)

/-- Behind an opening bracket there is its closing bracket or there are items. -/
theorem readValue_bracket (fuel depth : Nat) (cs : List Char) :
    readValue (fuel + 1) depth ('[' :: cs) = match skipBlanks cs with
      | ']' :: rest => some (nested (depth + 1) (.list []), rest)
      | rest => (readItems fuel (depth + 1) rest).map fun result =>
          (nested (depth + 1) (.list result.1), result.2) := by
  rw [readValue, skipBlanks_cons (by decide)]
  rfl

/-- Behind an opening brace there is its closing brace or there are fields. -/
theorem readValue_brace (fuel depth : Nat) (cs : List Char) :
    readValue (fuel + 1) depth ('\x7b' :: cs) = match skipBlanks cs with
      | '\x7d' :: rest => some (nested (depth + 1) (.record []), rest)
      | rest => (readFields fuel (depth + 1) rest).map fun result =>
          (nested (depth + 1) (match result.1 with
            | some fields => .record fields
            | none => .broken), result.2) := by
  rw [readValue, skipBlanks_cons (by decide)]
  rfl

/-- A list without items is read. -/
theorem readValue_list_nil (h : depth < maxDepth) (fuel : Nat) (rest : List Char) :
    readValue (fuel + 1) depth ('[' :: ']' :: rest) = some (.list [], rest) := by
  have hclose : skipBlanks (']' :: rest) = ']' :: rest := skipBlanks_cons (by decide) rest
  rw [readValue_bracket, hclose, nested_of_lt h]
  rfl

/-- A record without fields is read. -/
theorem readValue_record_nil (h : depth < maxDepth) (fuel : Nat) (rest : List Char) :
    readValue (fuel + 1) depth ('\x7b' :: '\x7d' :: rest) = some (.record [], rest) := by
  have hclose : skipBlanks ('\x7d' :: rest) = '\x7d' :: rest := skipBlanks_cons (by decide) rest
  rw [readValue_brace, hclose, nested_of_lt h]
  rfl

/-- A list is read once its items are. -/
theorem readValue_list (h : depth < maxDepth) (hne : ∀ behind, skipBlanks cs ≠ ']' :: behind)
    {items : List Value} (hitems : readItems fuel (depth + 1) cs = some (items, rest)) :
    readValue (fuel + 1) depth ('[' :: cs) = some (.list items, rest) := by
  rw [readValue_bracket]
  split
  · rename_i behind heq
    exact absurd heq (hne behind)
  · rw [readItems_skipBlanks, hitems, Option.map_some, nested_of_lt h]

/-- A record is read once its fields are. -/
theorem readValue_record (h : depth < maxDepth) (hne : ∀ behind, skipBlanks cs ≠ '\x7d' :: behind)
    {fields : List (String × Value)}
    (hfields : readFields fuel (depth + 1) cs = some (some fields, rest)) :
    readValue (fuel + 1) depth ('\x7b' :: cs) = some (.record fields, rest) := by
  rw [readValue_brace]
  split
  · rename_i behind heq
    exact absurd heq (hne behind)
  · rw [readFields_skipBlanks, hfields, Option.map_some, nested_of_lt h]

/-- The items of a list are read one after the other, each behind a comma but the first. -/
theorem readItems_comma {v : Value} {behind : List Char}
    (h : readValue fuel depth cs = some (v, ',' :: behind)) :
    readItems (fuel + 1) depth cs =
      (readItems fuel depth behind).map fun result => (v :: result.1, result.2) := by
  have hcomma : skipBlanks (',' :: behind) = ',' :: behind := skipBlanks_cons (by decide) behind
  rw [readItems, h]
  dsimp only [Option.bind_eq_bind, Option.bind_some]
  rw [hcomma]
  show ((readItems fuel depth behind).bind fun result => some (v :: result.1, result.2)) = _
  cases readItems fuel depth behind <;> rfl

/-- The last item is the one in front of the closing bracket. -/
theorem readItems_last {v : Value} {behind : List Char}
    (h : readValue fuel depth cs = some (v, behind)) (hend : skipBlanks behind = ']' :: rest) :
    readItems (fuel + 1) depth cs = some ([v], rest) := by
  rw [readItems, h]
  dsimp only [Option.bind_eq_bind, Option.bind_some]
  rw [hend]
  rfl

/-- So are the fields of a record, each of them with its name and a colon in front. -/
theorem readFields_eq {name : String} {v : Value} {behind : List Char}
    (hname : skipBlanks cs = (Json.quote name).toList ++ ':' :: rest)
    (h : readValue fuel depth rest = some (v, behind)) :
    readFields (fuel + 1) depth cs = match skipBlanks behind with
      | ',' :: others => (readFields fuel depth others).map fun result =>
          (result.1.map ((name, v) :: ·), result.2)
      | '\x7d' :: others => some (some [(name, v)], others)
      | _ => none := by
  have hquote : skipBlanks cs =
      '"' :: (name.toList.flatMap Json.escapeChar ++ '"' :: ':' :: rest) := by
    rw [hname]
    simp [Json.quote]
  have hcolon : skipBlanks (':' :: rest) = ':' :: rest := skipBlanks_cons (by decide) rest
  rw [readFields, hquote]
  show ((readText (name.toList.flatMap Json.escapeChar ++ '"' :: ':' :: rest)).bind _) = _
  rw [readText_quote]
  dsimp only [Option.bind_eq_bind, Option.bind_some]
  rw [hcolon]
  show ((readValue fuel depth rest).bind _) = _
  rw [h]
  dsimp only [Option.bind_eq_bind, Option.bind_some]
  cases skipBlanks behind with
  | nil => rfl
  | cons c others =>
    by_cases hcomma : c = ','
    · subst hcomma
      show ((readFields fuel depth others).bind _) = ((readFields fuel depth others).map _)
      cases readFields fuel depth others <;> rfl
    · by_cases hbrace : c = '\x7d'
      · subst hbrace
        rfl
      · simp [hcomma, hbrace]

/-- The fields of a record are read one after the other, each behind a comma but the first. -/
theorem readFields_comma {name : String} {v : Value} {others : List Char}
    (hname : skipBlanks cs = (Json.quote name).toList ++ ':' :: rest)
    (h : readValue fuel depth rest = some (v, ',' :: others)) :
    readFields (fuel + 1) depth cs =
      (readFields fuel depth others).map fun result =>
        (result.1.map ((name, v) :: ·), result.2) := by
  have hcomma : skipBlanks (',' :: others) = ',' :: others := skipBlanks_cons (by decide) others
  rw [readFields_eq hname h, hcomma]
  rfl

/-- The last field is the one in front of the closing brace. -/
theorem readFields_last {name : String} {v : Value} {behind others : List Char}
    (hname : skipBlanks cs = (Json.quote name).toList ++ ':' :: rest)
    (h : readValue fuel depth rest = some (v, behind))
    (hend : skipBlanks behind = '\x7d' :: others) :
    readFields (fuel + 1) depth cs = some (some [(name, v)], others) := by
  rw [readFields_eq hname h, hend]
  rfl

end Reading

/-! ## Trees -/

namespace Json

/-- What the text of a number is read as. -/
def numberTree (text : String) : Value := ((readNumber text.toList).map (·.1)).getD .broken

mutual

/-- The tree of a written value. -/
def tree : Json → Value
  | null => .null
  | bool b => .bool b
  | integer n => numberTree (toString n)
  | single x => if x.isFinite then numberTree x.text else .null
  | text s => .text s
  | list items => .list (treeOfItems items)
  | record fields => .record (treeOfFields fields)

/-- The trees of the items of a list. -/
def treeOfItems : List Json → List Value
  | [] => []
  | v :: rest => v.tree :: treeOfItems rest

/-- The trees of the fields of a record. -/
def treeOfFields : List (String × Json) → List (String × Value)
  | [] => []
  | (name, v) :: rest => (name, v.tree) :: treeOfFields rest

end

/-- The trees of the items are those of each item. -/
theorem treeOfItems_eq_map (items : List Json) : treeOfItems items = items.map tree := by
  induction items with
  | nil => rw [treeOfItems, List.map_nil]
  | cons v rest ih => rw [treeOfItems, ih, List.map_cons]

/-- The trees of the fields are those of each field under its name. -/
theorem treeOfFields_eq_map (fields : List (String × Json)) :
    treeOfFields fields = fields.map fun field => (field.1, field.2.tree) := by
  induction fields with
  | nil => rw [treeOfFields, List.map_nil]
  | cons field rest ih =>
    obtain ⟨name, v⟩ := field
    rw [treeOfFields, ih, List.map_cons]

/-- Fields that are written one after the other have their trees one after the other. -/
theorem treeOfFields_append (front back : List (String × Json)) :
    treeOfFields (front ++ back) = treeOfFields front ++ treeOfFields back := by
  simp only [treeOfFields_eq_map, List.map_append]

/-- A text that is a number and nothing else. -/
def IsNumber (text : String) : Prop := ∃ v, readNumber text.toList = some (v, [])

mutual

/-- The numbers in a value can be read, and it may lie inside of `depth` lists and records. -/
def Readable (depth : Nat) : Json → Prop
  | integer n => IsNumber (toString n)
  | single x => x.isFinite = true → IsNumber x.text
  | list items => depth < maxDepth ∧ ReadableItems (depth + 1) items
  | record fields => depth < maxDepth ∧ ReadableFields (depth + 1) fields
  | _ => True

/-- All items of a list can be read. -/
def ReadableItems (depth : Nat) : List Json → Prop
  | [] => True
  | v :: rest => v.Readable depth ∧ ReadableItems depth rest

/-- All fields of a record can be read. -/
def ReadableFields (depth : Nat) : List (String × Json) → Prop
  | [] => True
  | (_, v) :: rest => v.Readable depth ∧ ReadableFields depth rest

end

/-- Items can be read if each of them can. -/
theorem readableItems_iff {depth : Nat} {items : List Json} :
    ReadableItems depth items ↔ ∀ v ∈ items, v.Readable depth := by
  induction items with
  | nil => simp [ReadableItems]
  | cons v rest ih => simp [ReadableItems, ih]

/-- Fields can be read if the value of each of them can. -/
theorem readableFields_iff {depth : Nat} {fields : List (String × Json)} :
    ReadableFields depth fields ↔ ∀ field ∈ fields, field.2.Readable depth := by
  induction fields with
  | nil => simp [ReadableFields]
  | cons field rest ih =>
    obtain ⟨name, v⟩ := field
    simp [ReadableFields, ih]

/-- The text of a number is read as its tree. -/
theorem readNumber_of_isNumber {text : String} (h : IsNumber text) :
    readNumber text.toList = some (numberTree text, []) := by
  obtain ⟨v, hv⟩ := h
  unfold numberTree
  rw [hv]
  rfl

/-- A natural number is written with its digits. -/
theorem toList_toString_nat (n : Nat) : (toString (n : Int)).toList = Nat.toDigits 10 n := by
  show (Nat.repr n).toList = _
  rw [Nat.repr_eq_ofList_toDigits, String.toList_ofList]

/-- A natural number can be read. -/
theorem readable_nat (n depth : Nat) : (nat n).Readable depth := by
  refine ⟨numberValue ⟨false, Nat.toDigits 10 n, [], false, []⟩ true, ?_⟩
  rw [toList_toString_nat]
  exact readNumber_toDigits_eq n

/-- It is read exactly if it has at most 64 bits. -/
theorem tree_nat {n : Nat} (h : n < Nat.pow 2 64) : (nat n).tree = .integer n := by
  unfold nat
  rw [tree, numberTree, toList_toString_nat, readNumber_toDigits h]
  rfl

/-- A text between quotes is written with its characters escaped. -/
theorem toList_quote (s : String) :
    (quote s).toList = '"' :: (s.toList.flatMap escapeChar ++ ['"']) := by
  simp [quote]

/-- A quote is no blank. -/
theorem skipBlanks_quote (s : String) (cs : List Char) :
    skipBlanks ((quote s).toList ++ cs) = (quote s).toList ++ cs := by
  rw [toList_quote]
  exact skipBlanks_cons (by decide) _

end Json

end ScopePaint.Data
