import ScopePaint.Proofs.Data.JsonTrees

/-!
# What is written in JSON is read back

The indented text of a value and the one without blanks differ in the blanks between their parts
only, so both are instances of one way to write a value (`Layout.write`). What is written in any
layout is read as the tree of the value (`Layout.readValue_write`): the induction is over the value,
and the text is as long as the reader's supply of steps needs to be. Hence `Json.readJson_pretty`
and `Json.readJson_compact`. The text without blanks has no line break in it
(`Json.newline_notMem_compact`), so that it fits on a line.
-/

set_option autoImplicit false

namespace ScopePaint.Data

/-- The blanks in a text: those in front of each part of a list or a record, and of its end, by how
deep it lies, and those behind a colon. -/
structure Layout where
  lineBreak : Nat → List Char
  space : List Char
  isBlank_lineBreak : ∀ level, ∀ c ∈ lineBreak level, isBlank c = true
  isBlank_space : ∀ c ∈ space, isBlank c = true

namespace Layout

open Json (quote skipBlanks_quote treeOfItems treeOfFields ReadableItems ReadableFields)

/-- Every part on a line of its own, indented by two blanks a level. -/
def indented : Layout where
  lineBreak level := '\n' :: List.replicate (2 * level) ' '
  space := [' ']
  isBlank_lineBreak := by
    intro level c hc
    rcases List.mem_cons.1 hc with rfl | hc
    · decide
    · obtain rfl := (List.mem_replicate.1 hc).2
      decide
  isBlank_space := by
    intro c hc
    obtain rfl := List.mem_singleton.1 hc
    decide

/-- No blanks at all. -/
def dense : Layout where
  lineBreak _ := []
  space := []
  isBlank_lineBreak _ _ hc := absurd hc List.not_mem_nil
  isBlank_space _ hc := absurd hc List.not_mem_nil

variable (l : Layout)

mutual

/-- The text of a value that lies `level` levels deep. -/
def write (level : Nat) : Json → List Char
  | .list [] => ['[', ']']
  | .record [] => ['\x7b', '\x7d']
  | .list items => '[' :: (writeItems (level + 1) items ++ (l.lineBreak level ++ [']']))
  | .record fields =>
    '\x7b' :: (writeFields (level + 1) fields ++ (l.lineBreak level ++ ['\x7d']))
  | v => v.leaf.toList

/-- The items of a list. -/
def writeItems (level : Nat) : List Json → List Char
  | [] => []
  | [v] => l.lineBreak level ++ write level v
  | v :: rest => l.lineBreak level ++ (write level v ++ ',' :: writeItems level rest)

/-- The fields of a record. -/
def writeFields (level : Nat) : List (String × Json) → List Char
  | [] => []
  | [(name, v)] =>
    l.lineBreak level ++ ((quote name).toList ++ ':' :: (l.space ++ write level v))
  | (name, v) :: rest =>
    l.lineBreak level ++ ((quote name).toList ++
      ':' :: (l.space ++ (write level v ++ ',' :: writeFields level rest)))

end

section Forms

variable (level : Nat)

/-- A value without parts is written in the same way in every layout. -/
theorem write_leaf {v : Json} (hlist : ∀ items, v ≠ .list items)
    (hrecord : ∀ fields, v ≠ .record fields) : l.write level v = v.leaf.toList := by
  cases v with
  | list items => exact absurd rfl (hlist items)
  | record fields => exact absurd rfl (hrecord fields)
  | null | bool | integer | single | text => simp [write]

/-- A list with items stands in brackets. -/
theorem write_list (v : Json) (rest : List Json) :
    l.write level (.list (v :: rest)) =
      '[' :: (l.writeItems (level + 1) (v :: rest) ++ (l.lineBreak level ++ [']'])) := by
  simp [write]

/-- A record with fields stands in braces. -/
theorem write_record (field : String × Json) (rest : List (String × Json)) :
    l.write level (.record (field :: rest)) =
      '\x7b' :: (l.writeFields (level + 1) (field :: rest) ++ (l.lineBreak level ++ ['\x7d'])) := by
  simp [write]

/-- A comma stands behind each item but the last. -/
theorem writeItems_cons (v next : Json) (rest : List Json) :
    l.writeItems level (v :: next :: rest) =
      l.lineBreak level ++ (l.write level v ++ ',' :: l.writeItems level (next :: rest)) := by
  simp [writeItems]

/-- A comma stands behind each field but the last. -/
theorem writeFields_cons (name : String) (v : Json) (next : String × Json)
    (rest : List (String × Json)) :
    l.writeFields level ((name, v) :: next :: rest) =
      l.lineBreak level ++ ((quote name).toList ++ ':' :: (l.space ++
        (l.write level v ++ ',' :: l.writeFields level (next :: rest)))) := by
  simp [writeFields]

end Forms

/-! ## Where parts begin -/

/-- A readable value without parts begins with a character that is neither a blank nor a closing
bracket. -/
theorem head_leaf {depth : Nat} {v : Json} (h : v.Readable depth) (rest : List Char) :
    ∃ c cs, v.leaf.toList ++ rest = c :: cs ∧ isBlank c = false ∧ c ≠ ']' := by
  have hnumber : ∀ {text : String}, Json.IsNumber text →
      ∃ c cs, text.toList ++ rest = c :: cs ∧ isBlank c = false ∧ c ≠ ']' := by
    rintro text ⟨n, hn⟩
    obtain ⟨c, cs, hcs, hc⟩ := head_of_readNumber hn
    exact ⟨c, cs ++ rest, by rw [hcs]; rfl, (isBlank_of_number hc).1,
      fun hbracket => by subst hbracket; simp at hc⟩
  unfold Json.Readable at h
  cases v with
  | null => exact ⟨'n', _, rfl, by decide, by decide⟩
  | bool b =>
    cases b
    · exact ⟨'f', _, rfl, by decide, by decide⟩
    · exact ⟨'t', _, rfl, by decide, by decide⟩
  | integer n => exact hnumber h
  | single x =>
    rw [Json.leaf]
    split
    · rename_i hfinite
      exact hnumber (h hfinite)
    · exact ⟨'n', _, rfl, by decide, by decide⟩
  | text s =>
    rw [Json.leaf, Json.toList_quote]
    exact ⟨'"', _, rfl, by decide, by decide⟩
  | list items =>
    rw [Json.leaf]
    exact ⟨'[', _, rfl, by decide, by decide⟩
  | record fields =>
    rw [Json.leaf]
    exact ⟨'\x7b', _, rfl, by decide, by decide⟩

/-- So does every readable value. -/
theorem head_write {depth : Nat} {v : Json} (h : v.Readable depth) (level : Nat)
    (rest : List Char) :
    ∃ c cs, l.write level v ++ rest = c :: cs ∧ isBlank c = false ∧ c ≠ ']' := by
  cases v with
  | null | bool | integer | single | text =>
    rw [write_leaf l level (by simp) (by simp)]
    exact head_leaf h rest
  | list items =>
    cases items with
    | nil =>
      rw [write]
      exact ⟨'[', _, rfl, by decide, by decide⟩
    | cons v items =>
      rw [write_list]
      exact ⟨'[', _, rfl, by decide, by decide⟩
  | record fields =>
    cases fields with
    | nil =>
      rw [write]
      exact ⟨'\x7b', _, rfl, by decide, by decide⟩
    | cons field fields =>
      rw [write_record]
      exact ⟨'\x7b', _, rfl, by decide, by decide⟩

/-- The items of a list do not begin with its end. -/
theorem skipBlanks_writeItems {depth : Nat} (level : Nat) {v : Json} {rest : List Json}
    (h : v.Readable depth) (behind others : List Char) :
    skipBlanks (l.writeItems level (v :: rest) ++ behind) ≠ ']' :: others := by
  obtain ⟨tail, htail⟩ : ∃ tail, l.writeItems level (v :: rest) ++ behind =
      l.lineBreak level ++ (l.write level v ++ tail) := by
    cases rest with
    | nil => exact ⟨behind, by rw [writeItems, List.append_assoc]⟩
    | cons next rest =>
      refine ⟨',' :: l.writeItems level (next :: rest) ++ behind, ?_⟩
      rw [writeItems_cons, List.append_assoc, List.append_assoc]
  obtain ⟨c, cs, hcs, hblank, hc⟩ := l.head_write h level tail
  rw [htail, skipBlanks_append (l.isBlank_lineBreak level), hcs, skipBlanks_cons hblank]
  exact fun heq => hc (List.cons.inj heq).1

/-- The fields of a record do not begin with its end. -/
theorem skipBlanks_writeFields (level : Nat) (field : String × Json)
    (rest : List (String × Json)) (behind others : List Char) :
    skipBlanks (l.writeFields level (field :: rest) ++ behind) ≠ '\x7d' :: others := by
  obtain ⟨name, v⟩ := field
  obtain ⟨tail, htail⟩ : ∃ tail, l.writeFields level ((name, v) :: rest) ++ behind =
      l.lineBreak level ++ ((quote name).toList ++ tail) := by
    cases rest with
    | nil =>
      refine ⟨':' :: (l.space ++ l.write level v) ++ behind, ?_⟩
      rw [writeFields, List.append_assoc, List.append_assoc]
    | cons next rest =>
      refine ⟨':' :: (l.space ++ (l.write level v ++
        ',' :: l.writeFields level (next :: rest))) ++ behind, ?_⟩
      rw [writeFields_cons, List.append_assoc, List.append_assoc]
  rw [htail, skipBlanks_append (l.isBlank_lineBreak level), skipBlanks_quote, Json.toList_quote]
  exact fun heq => absurd (List.cons.inj heq).1 (by decide)

/-! ## Reading what was written -/

/-- A value without parts is read back up to what ends it. -/
theorem readValue_leaf {v : Json} (hlist : ∀ items, v ≠ .list items)
    (hrecord : ∀ fields, v ≠ .record fields) {depth : Nat} (h : v.Readable depth)
    {rest : List Char} (hrest : EndsNumber rest) (fuel : Nat) :
    readValue (fuel + 1) depth (v.leaf.toList ++ rest) = some (v.tree, rest) := by
  cases v with
  | null => exact readValue_null fuel depth rest
  | bool b => exact readValue_bool b fuel depth rest
  | integer n => exact readValue_number (Json.readNumber_of_isNumber h) hrest fuel depth
  | single x =>
    rw [Json.leaf, Json.tree]
    split
    · rename_i hfinite
      exact readValue_number (Json.readNumber_of_isNumber (h hfinite)) hrest fuel depth
    · exact readValue_null fuel depth rest
  | text s => exact readValue_quote s fuel depth rest
  | list items => exact absurd rfl (hlist items)
  | record fields => exact absurd rfl (hrecord fields)

/-- A list is read once its items are: only blanks stand in front of the closing bracket. -/
theorem readValue_write_list {depth fuel : Nat} (level : Nat) {v : Json} {others : List Json}
    (hdepth : depth < maxDepth) (hv : v.Readable (depth + 1)) {items : List Value}
    {rest : List Char}
    (hread : readItems fuel (depth + 1) (l.writeItems (level + 1) (v :: others) ++
      (l.lineBreak level ++ ']' :: rest)) = some (items, rest)) :
    readValue (fuel + 1) depth (l.write level (.list (v :: others)) ++ rest) =
      some (.list items, rest) := by
  have htext : l.write level (.list (v :: others)) ++ rest =
      '[' :: (l.writeItems (level + 1) (v :: others) ++ (l.lineBreak level ++ ']' :: rest)) := by
    rw [write_list]
    simp
  rw [htext]
  exact readValue_list hdepth (fun behind => l.skipBlanks_writeItems (level + 1) hv _ behind) hread

/-- So is a record once its fields are. -/
theorem readValue_write_record {depth fuel : Nat} (level : Nat) {field : String × Json}
    {others : List (String × Json)} (hdepth : depth < maxDepth)
    {fields : List (String × Value)} {rest : List Char}
    (hread : readFields fuel (depth + 1) (l.writeFields (level + 1) (field :: others) ++
      (l.lineBreak level ++ '\x7d' :: rest)) = some (some fields, rest)) :
    readValue (fuel + 1) depth (l.write level (.record (field :: others)) ++ rest) =
      some (.record fields, rest) := by
  have htext : l.write level (.record (field :: others)) ++ rest =
      '\x7b' :: (l.writeFields (level + 1) (field :: others) ++
        (l.lineBreak level ++ '\x7d' :: rest)) := by
    rw [write_record]
    simp
  rw [htext]
  exact readValue_record hdepth
    (fun behind => l.skipBlanks_writeFields (level + 1) field others _ behind) hread

mutual

/-- **What is written is read back.** -/
theorem readValue_write (v : Json) {depth fuel : Nat} (level : Nat) (h : v.Readable depth)
    (hfuel : (l.write level v).length < fuel) {rest : List Char} (hrest : EndsNumber rest) :
    readValue fuel depth (l.write level v ++ rest) = some (v.tree, rest) := by
  obtain ⟨fuel, rfl⟩ : ∃ n, fuel = n + 1 := ⟨fuel - 1, by omega⟩
  cases v with
  | null | bool | integer | single | text =>
    rw [write_leaf l level (by simp) (by simp)]
    exact readValue_leaf (by simp) (by simp) h hrest fuel
  | list items =>
    obtain ⟨hdepth, hitems⟩ := h
    cases items with
    | nil =>
      rw [write]
      exact readValue_list_nil hdepth fuel rest
    | cons v others =>
      rw [write_list] at hfuel
      simp only [List.length_cons, List.length_append] at hfuel
      have hlt : (l.writeItems (level + 1) (v :: others)).length + 1 < fuel := by
        simp only [List.length_nil] at hfuel
        omega
      exact l.readValue_write_list level hdepth hitems.1
        (readItems_write (v :: others) (by simp) (level + 1) level hitems hlt rest)
  | record fields =>
    obtain ⟨hdepth, hfields⟩ := h
    cases fields with
    | nil =>
      rw [write]
      exact readValue_record_nil hdepth fuel rest
    | cons field others =>
      rw [write_record] at hfuel
      simp only [List.length_cons, List.length_append] at hfuel
      have hlt : (l.writeFields (level + 1) (field :: others)).length + 1 < fuel := by
        simp only [List.length_nil] at hfuel
        omega
      exact l.readValue_write_record level hdepth
        (readFields_write (field :: others) (by simp) (level + 1) level hfields hlt rest)

/-- The items of a list are read back up to its closing bracket. -/
theorem readItems_write (items : List Json) (hne : items ≠ []) {depth fuel : Nat}
    (level outer : Nat) (h : ReadableItems depth items)
    (hfuel : (l.writeItems level items).length + 1 < fuel) (rest : List Char) :
    readItems fuel depth (l.writeItems level items ++ (l.lineBreak outer ++ ']' :: rest)) =
      some (treeOfItems items, rest) := by
  obtain ⟨fuel, rfl⟩ : ∃ n, fuel = n + 1 := ⟨fuel - 1, by omega⟩
  have hbreak := l.isBlank_lineBreak level
  have hclose : skipBlanks (l.lineBreak outer ++ ']' :: rest) = ']' :: rest := by
    rw [skipBlanks_append (l.isBlank_lineBreak outer), skipBlanks_cons (by decide)]
  cases items with
  | nil => exact absurd rfl hne
  | cons v others =>
    obtain ⟨hv, hothers⟩ := h
    cases others with
    | nil =>
      rw [writeItems, List.length_append] at hfuel
      rw [writeItems, List.append_assoc, ← readItems_skipBlanks, skipBlanks_append hbreak,
        readItems_skipBlanks]
      have hends : EndsNumber (l.lineBreak outer ++ ']' :: rest) :=
        (endsNumber_cons (by decide) rest).behind_blanks (l.isBlank_lineBreak outer)
      have hlt : (l.write level v).length < fuel := by omega
      have hread := readValue_write v level hv hlt hends
      exact readItems_last hread hclose
    | cons next others =>
      rw [writeItems_cons, List.length_append, List.length_append, List.length_cons] at hfuel
      rw [writeItems_cons, List.append_assoc, ← readItems_skipBlanks, skipBlanks_append hbreak,
        readItems_skipBlanks, List.append_assoc, List.cons_append]
      have hcomma : EndsNumber (',' :: (l.writeItems level (next :: others) ++
          (l.lineBreak outer ++ ']' :: rest))) := endsNumber_cons (by decide) _
      have hlt : (l.write level v).length < fuel := by omega
      have hread := readValue_write v level hv hlt hcomma
      have hshorter : (l.writeItems level (next :: others)).length + 1 < fuel := by omega
      have hitems := readItems_write (next :: others) (by simp) level outer hothers hshorter rest
      rw [readItems_comma hread, hitems]
      rfl

/-- The fields of a record are read back up to its closing brace. -/
theorem readFields_write (fields : List (String × Json)) (hne : fields ≠ []) {depth fuel : Nat}
    (level outer : Nat) (h : ReadableFields depth fields)
    (hfuel : (l.writeFields level fields).length + 1 < fuel) (rest : List Char) :
    readFields fuel depth (l.writeFields level fields ++ (l.lineBreak outer ++ '\x7d' :: rest)) =
      some (some (treeOfFields fields), rest) := by
  obtain ⟨fuel, rfl⟩ : ∃ n, fuel = n + 1 := ⟨fuel - 1, by omega⟩
  have hbreak := l.isBlank_lineBreak level
  have hclose : skipBlanks (l.lineBreak outer ++ '\x7d' :: rest) = '\x7d' :: rest := by
    rw [skipBlanks_append (l.isBlank_lineBreak outer), skipBlanks_cons (by decide)]
  cases fields with
  | nil => exact absurd rfl hne
  | cons field others =>
    obtain ⟨name, v⟩ := field
    obtain ⟨hv, hothers⟩ := h
    cases others with
    | nil =>
      rw [writeFields] at hfuel
      simp only [List.length_append, List.length_cons] at hfuel
      rw [writeFields, List.append_assoc, ← readFields_skipBlanks, skipBlanks_append hbreak,
        readFields_skipBlanks, List.append_assoc, List.cons_append, List.append_assoc]
      have hends : EndsNumber (l.lineBreak outer ++ '\x7d' :: rest) :=
        (endsNumber_cons (by decide) rest).behind_blanks (l.isBlank_lineBreak outer)
      have hlt : (l.write level v).length < fuel := by omega
      have hread := readValue_write v level hv hlt hends
      rw [← readValue_blanks l.isBlank_space] at hread
      exact readFields_last (skipBlanks_quote name _) hread hclose
    | cons next others =>
      rw [writeFields_cons] at hfuel
      simp only [List.length_append, List.length_cons] at hfuel
      rw [writeFields_cons, List.append_assoc, ← readFields_skipBlanks, skipBlanks_append hbreak,
        readFields_skipBlanks, List.append_assoc, List.cons_append, List.append_assoc,
        List.append_assoc, List.cons_append]
      have hcomma : EndsNumber (',' :: (l.writeFields level (next :: others) ++
          (l.lineBreak outer ++ '\x7d' :: rest))) := endsNumber_cons (by decide) _
      have hlt : (l.write level v).length < fuel := by omega
      have hread := readValue_write v level hv hlt hcomma
      have hshorter : (l.writeFields level (next :: others)).length + 1 < fuel := by omega
      have hfields := readFields_write (next :: others) (by simp) level outer hothers
        hshorter rest
      rw [← readValue_blanks l.isBlank_space] at hread
      rw [readFields_comma (skipBlanks_quote name _) hread, hfields]
      rfl

end

/-- What is written in a layout is read as the tree of the value. -/
theorem readJson_write {v : Json} (h : v.Readable 0) {text : String}
    (htext : text.toList = l.write 0 v) : readJson text = some v.tree := by
  have hlt : (l.write 0 v).length < 2 * text.toList.length + 2 := by
    rw [htext]
    omega
  have hread := l.readValue_write v 0 h hlt endsNumber_nil
  rw [List.append_nil, ← htext] at hread
  unfold readJson
  dsimp only
  rw [hread]
  rfl

/-! ## Line breaks -/

/-- There is no line break in a quoted text. -/
theorem newline_notMem_quote (s : String) : '\n' ∉ (quote s).toList := by
  rw [Json.toList_quote]
  intro hmem
  rcases List.mem_cons.1 hmem with hquote | hmem
  · exact absurd hquote (by decide)
  · rcases List.mem_append.1 hmem with hmem | hquote
    · obtain ⟨c, -, hc⟩ := List.mem_flatMap.1 hmem
      exact newline_notMem_escapeChar c hc
    · exact absurd (List.mem_singleton.1 hquote) (by decide)

/-- There is none in a readable value without parts. -/
theorem newline_notMem_leaf {depth : Nat} {v : Json} (h : v.Readable depth) :
    '\n' ∉ v.leaf.toList := by
  unfold Json.Readable at h
  cases v with
  | null => decide
  | bool b => cases b <;> decide
  | integer n => exact newline_notMem_of_readNumber (Json.readNumber_of_isNumber h)
  | single x =>
    rw [Json.leaf]
    split
    · rename_i hfinite
      exact newline_notMem_of_readNumber (Json.readNumber_of_isNumber (h hfinite))
    · decide
  | text s => exact newline_notMem_quote s
  | list items => rw [Json.leaf]; decide
  | record fields => rw [Json.leaf]; decide

mutual

/-- There is none in a readable value that is written without blanks. -/
theorem newline_notMem_dense (v : Json) {depth : Nat} (level : Nat) (h : v.Readable depth) :
    '\n' ∉ dense.write level v := by
  have hbreak : dense.lineBreak level = [] := rfl
  cases v with
  | null | bool | integer | single | text =>
    rw [write_leaf dense level (by simp) (by simp)]
    exact newline_notMem_leaf h
  | list items =>
    cases items with
    | nil => rw [write]; decide
    | cons v rest =>
      have hitems := newline_notMem_denseItems (v :: rest) (level + 1) h.2
      simp [write_list, hitems, hbreak]
  | record fields =>
    cases fields with
    | nil => rw [write]; decide
    | cons field rest =>
      have hfields := newline_notMem_denseFields (field :: rest) (level + 1) h.2
      simp [write_record, hfields, hbreak]

/-- Nor in the items of a list. -/
theorem newline_notMem_denseItems (items : List Json) {depth : Nat} (level : Nat)
    (h : ReadableItems depth items) : '\n' ∉ dense.writeItems level items := by
  have hbreak : dense.lineBreak level = [] := rfl
  cases items with
  | nil => simp [writeItems]
  | cons v rest =>
    have hv := newline_notMem_dense v level h.1
    cases rest with
    | nil => simp [writeItems, hbreak, hv]
    | cons next rest =>
      have hrest := newline_notMem_denseItems (next :: rest) level h.2
      simp [writeItems_cons, hbreak, hv, hrest]

/-- Nor in the fields of a record. -/
theorem newline_notMem_denseFields (fields : List (String × Json)) {depth : Nat} (level : Nat)
    (h : ReadableFields depth fields) : '\n' ∉ dense.writeFields level fields := by
  have hbreak : dense.lineBreak level = [] := rfl
  have hspace : dense.space = [] := rfl
  cases fields with
  | nil => simp [writeFields]
  | cons field rest =>
    obtain ⟨name, v⟩ := field
    have hname := newline_notMem_quote name
    have hv := newline_notMem_dense v level h.1
    cases rest with
    | nil => simp [writeFields, hbreak, hspace, hname, hv]
    | cons next rest =>
      have hrest := newline_notMem_denseFields (next :: rest) level h.2
      simp [writeFields_cons, hbreak, hspace, hname, hv, hrest]

end

end Layout

namespace Json

/-! ## The two layouts -/

/-- A new line is what an indented layout has in front of a part. -/
theorem toList_lineBreak (level : Nat) :
    (lineBreak level).toList = Layout.indented.lineBreak level := by
  simp [lineBreak, Layout.indented]

mutual

/-- Indented text has the layout with a line for each part. -/
theorem toList_prettyAt (v : Json) (level : Nat) :
    (v.prettyAt level).toList = Layout.indented.write level v := by
  cases v with
  | null | bool | integer | single | text => simp [prettyAt, Layout.write]
  | list items =>
    cases items with
    | nil => simp [prettyAt, Layout.write]
    | cons v rest =>
      simp [prettyAt, Layout.write_list, toList_prettyItems (v :: rest), toList_lineBreak]
  | record fields =>
    cases fields with
    | nil => simp [prettyAt, Layout.write]
    | cons field rest =>
      simp [prettyAt, Layout.write_record, toList_prettyFields (field :: rest), toList_lineBreak]

/-- So do the items of a list. -/
theorem toList_prettyItems (items : List Json) (level : Nat) :
    (prettyItems level items).toList = Layout.indented.writeItems level items := by
  cases items with
  | nil => simp [prettyItems, Layout.writeItems]
  | cons v rest =>
    cases rest with
    | nil => simp [prettyItems, Layout.writeItems, toList_prettyAt v, toList_lineBreak]
    | cons next rest =>
      simp [prettyItems, Layout.writeItems_cons, toList_prettyAt v,
        toList_prettyItems (next :: rest), toList_lineBreak]

/-- So do the fields of a record. -/
theorem toList_prettyFields (fields : List (String × Json)) (level : Nat) :
    (prettyFields level fields).toList = Layout.indented.writeFields level fields := by
  have hspace : Layout.indented.space = [' '] := rfl
  cases fields with
  | nil => simp [prettyFields, Layout.writeFields]
  | cons field rest =>
    obtain ⟨name, v⟩ := field
    cases rest with
    | nil => simp [prettyFields, Layout.writeFields, toList_prettyAt v, toList_lineBreak, hspace]
    | cons next rest =>
      simp [prettyFields, Layout.writeFields_cons, toList_prettyAt v,
        toList_prettyFields (next :: rest), toList_lineBreak, hspace]

end

mutual

/-- Text without blanks has the layout without any. -/
theorem toList_compact (v : Json) (level : Nat) :
    v.compact.toList = Layout.dense.write level v := by
  have hbreak : Layout.dense.lineBreak level = [] := rfl
  cases v with
  | null | bool | integer | single | text => simp [compact, Layout.write]
  | list items =>
    cases items with
    | nil => simp [compact, compactItems, Layout.write]
    | cons v rest =>
      simp [compact, Layout.write_list, toList_compactItems (v :: rest) (level + 1), hbreak]
  | record fields =>
    cases fields with
    | nil => simp [compact, compactFields, Layout.write]
    | cons field rest =>
      simp [compact, Layout.write_record, toList_compactFields (field :: rest) (level + 1), hbreak]

/-- So do the items of a list. -/
theorem toList_compactItems (items : List Json) (level : Nat) :
    (compactItems items).toList = Layout.dense.writeItems level items := by
  have hbreak : Layout.dense.lineBreak level = [] := rfl
  cases items with
  | nil => simp [compactItems, Layout.writeItems]
  | cons v rest =>
    cases rest with
    | nil => simp [compactItems, Layout.writeItems, toList_compact v level, hbreak]
    | cons next rest =>
      simp [compactItems, Layout.writeItems_cons, toList_compact v level,
        toList_compactItems (next :: rest) level, hbreak]

/-- So do the fields of a record. -/
theorem toList_compactFields (fields : List (String × Json)) (level : Nat) :
    (compactFields fields).toList = Layout.dense.writeFields level fields := by
  have hbreak : Layout.dense.lineBreak level = [] := rfl
  have hspace : Layout.dense.space = [] := rfl
  cases fields with
  | nil => simp [compactFields, Layout.writeFields]
  | cons field rest =>
    obtain ⟨name, v⟩ := field
    cases rest with
    | nil => simp [compactFields, Layout.writeFields, toList_compact v level, hbreak, hspace]
    | cons next rest =>
      simp [compactFields, Layout.writeFields_cons, toList_compact v level,
        toList_compactFields (next :: rest) level, hbreak, hspace]

end

/-- **The indented text of a readable value is read as its tree.** -/
theorem readJson_pretty {v : Json} (h : v.Readable 0) : readJson v.pretty = some v.tree :=
  Layout.indented.readJson_write h (v.toList_prettyAt 0)

/-- **The text of a readable value without blanks is read as its tree, too.** -/
theorem readJson_compact {v : Json} (h : v.Readable 0) : readJson v.compact = some v.tree :=
  Layout.dense.readJson_write h (v.toList_compact 0)

/-- The text of a readable value without blanks stands on one line. -/
theorem newline_notMem_compact {v : Json} {depth : Nat} (h : v.Readable depth) :
    '\n' ∉ v.compact.toList := by
  rw [v.toList_compact 0]
  exact Layout.newline_notMem_dense v 0 h

end Json

end ScopePaint.Data
