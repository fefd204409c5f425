import ScopePaint.Grammar.EndPattern
import ScopePaint.Proofs.Outcome

/-!
# Reading an escaped text

A text whose characters with a meaning are escaped is read back character by character, each as a
literal (`readItem_meta`, `readItem_plain`). Since no character of it begins a quantifier or a
comment, a branch of a pattern goes on with one literal for each character (`readBranch_escape`). An
expression of such literals, perhaps with anchors around them, has no groups, references and calls,
so no check refuses it and nothing is left to complete (`ofPattern_of_isFlat`). That makes an
escaped text, alone or between the anchors of a line, an expression of its characters
(`compile_escape`, `compile_line_escape`).
-/

set_option autoImplicit false

namespace ScopePaint.Regex

open EndPattern (isMeta escape)

variable {c : Char} {cs rest rest' : List Char} {t t' : Tally} {fuel : Nat}

/-! ## Items -/

/-- An escaped character with a meaning stands for itself. -/
theorem readItem_meta (hc : isMeta c = true) :
    readItem (fuel + 1) {} t ('\\' :: c :: rest) = .ok (.pieces [.node (.literal c)], t, rest) := by
  have hescape : readEscape {} t (c :: rest) = .ok ([.node (.literal c)], rest) := by
    simp only [isMeta, List.contains_iff_mem, List.mem_cons, List.not_mem_nil, or_false] at hc
    rcases hc with rfl | rfl | rfl | rfl | rfl | rfl | rfl | rfl | rfl | rfl | rfl | rfl | rfl |
      rfl | rfl | rfl | rfl | rfl <;> rfl
  rw [readItem, hescape]
  rfl

/-- A character without a meaning is none with one. -/
theorem ne_of_not_isMeta {d : Char} (hc : isMeta c = false) (hd : isMeta d = true) : c ≠ d := by
  rintro rfl
  exact absurd (hc.symm.trans hd) (by simp)

/-- A character without a meaning begins no quantifier. -/
theorem readQuantifier_of_not_isMeta (hc : isMeta c = false) :
    readQuantifier (c :: rest) = .ok none := by
  unfold readQuantifier
  split
  case h_5 => rfl
  all_goals
    rename_i heq
    exact absurd (List.cons.inj heq).1 (ne_of_not_isMeta hc (by decide))

/-- A character without a meaning stands for itself. -/
theorem readItem_plain (hc : isMeta c = false) :
    readItem (fuel + 1) {} t (c :: rest) = .ok (.pieces [.node (.literal c)], t, rest) := by
  rw [readItem]
  · rw [readQuantifier_of_not_isMeta hc]
    rfl
  all_goals
    intro heq
    exact absurd heq (ne_of_not_isMeta hc (by decide))

/-! ## Branches -/

/-- Text in front of which an item is over: neither a comment nor a quantifier begins there. -/
structure Inert (rest : List Char) : Prop where
  trivia : skipTrivia false .none rest = .ok rest
  quantifier : readQuantifier rest = .ok none

/-- An item is over at the end of a pattern. -/
theorem inert_nil : Inert [] := ⟨rfl, rfl⟩

/-- It is over in front of the end of a line. -/
theorem inert_dollar : Inert ['$'] := ⟨rfl, rfl⟩

/-- A character with a meaning is escaped by a backslash. -/
theorem escape_cons_meta (hc : isMeta c = true) (cs : List Char) :
    escape (c :: cs) = '\\' :: c :: escape cs := by
  simp [escape, hc]

/-- Each other character stands for itself. -/
theorem escape_cons_plain (hc : isMeta c = false) (cs : List Char) :
    escape (c :: cs) = c :: escape cs := by
  simp [escape, hc]

/-- Nothing is skipped where no group begins. -/
theorem skipTrivia_of_ne (hc : c ≠ '(') :
    skipTrivia false .none (c :: rest) = .ok (c :: rest) := by
  rw [skipTrivia]
  · rfl
  · intro _ heq
    exact absurd heq hc

/-- Behind an item, escaped text is no quantifier of it. -/
theorem Inert.escape (h : Inert rest) (cs : List Char) : Inert (escape cs ++ rest) := by
  cases cs with
  | nil => exact h
  | cons c cs =>
    cases hc : isMeta c with
    | true =>
      rw [escape_cons_meta hc]
      exact ⟨rfl, rfl⟩
    | false =>
      rw [escape_cons_plain hc]
      exact ⟨skipTrivia_of_ne (ne_of_not_isMeta hc (by decide)), readQuantifier_of_not_isMeta hc⟩

/-- A branch goes on with what its first item is read as, and then with the rest. -/
theorem readBranch_item {piece : Piece} {more : List Piece} (hparen : c ≠ '(') (hbar : c ≠ '|')
    (hclose : c ≠ ')')
    (hitem : readItem fuel {} t (c :: cs) = .ok (.pieces [piece], t, rest)) (hrest : Inert rest)
    (hmore : readBranch fuel {} t rest = .ok (more, t', rest')) :
    readBranch (fuel + 1) {} t (c :: cs) = .ok (piece :: more, t', rest') := by
  have hquantifiers : readQuantifiers {} (rest.length + 1) piece rest = .ok (piece, rest) := by
    rw [readQuantifiers, hrest.trivia]
    simp only [bind, Except.bind, hrest.quantifier]
    rfl
  rw [readBranch, skipTrivia_of_ne hparen]
  simp only [bind, Except.bind]
  split
  · rename_i heq
    exact absurd heq (by simp)
  · rename_i heq
    exact absurd (List.cons.inj heq).1 hbar
  · rename_i heq
    exact absurd (List.cons.inj heq).1 hclose
  · rw [hitem]
    simp only [List.getLast?_singleton, hquantifiers, hmore]
    rfl

/-- The literals of a text. -/
def literals (cs : List Char) : List Node := cs.map .literal

/-- **An escaped text is read as the literals of its characters.** -/
theorem readBranch_escape {more : List Node} (hrest : Inert rest)
    (hmore : readBranch (fuel + 1) {} t rest = .ok (more.map .node, t', rest')) (cs : List Char) :
    readBranch (fuel + 1 + cs.length) {} t (escape cs ++ rest) =
      .ok ((literals cs ++ more).map .node, t', rest') := by
  induction cs with
  | nil => exact hmore
  | cons c cs ih =>
    have hfuel : fuel + 1 + cs.length = fuel + cs.length + 1 := by omega
    rw [List.length_cons, ← Nat.add_assoc]
    cases hc : isMeta c with
    | true =>
      rw [escape_cons_meta hc]
      refine readBranch_item (by decide) (by decide) (by decide) ?_ (hrest.escape cs) ih
      rw [hfuel]
      exact readItem_meta hc
    | false =>
      rw [escape_cons_plain hc]
      refine readBranch_item (ne_of_not_isMeta hc (by decide)) (ne_of_not_isMeta hc (by decide))
        (ne_of_not_isMeta hc (by decide)) ?_ (hrest.escape cs) ih
      rw [hfuel]
      exact readItem_plain hc

/-- The nodes of a branch without letters are its own. -/
theorem branchNode_map_node (o : Options) (ns : List Node) :
    branchNode o (ns.map .node) = .seqOf ns := by
  have hnodes : ∀ fuel, ns.length < fuel → nodesOf o fuel (ns.map .node) = ns := by
    induction ns with
    | nil =>
      intro fuel hfuel
      obtain ⟨fuel, rfl⟩ := Nat.exists_eq_add_one_of_ne_zero (Nat.ne_zero_of_lt hfuel)
      rfl
    | cons n ns ih =>
      intro fuel hfuel
      obtain ⟨fuel, rfl⟩ := Nat.exists_eq_add_one_of_ne_zero (Nat.ne_zero_of_lt hfuel)
      rw [List.map_cons, nodesOf, ih fuel (by simpa using hfuel)]
  unfold branchNode
  rw [hnodes _ (by simp)]

/-- A pattern of a single branch is that branch. -/
theorem readPattern_of_readBranch {ns : List Node} (hfuel : fuelFor cs = fuel + 1)
    (h : readBranch fuel {} {} cs = .ok (ns.map .node, {}, [])) :
    readPattern cs = .ok (.seqOf ns, {}) := by
  unfold readPattern
  rw [hfuel, readAlternatives, h]
  simp only [bind, Except.bind, branchNode_map_node]
  rfl

/-! ## Expressions of characters and anchors -/

/-- Whether a node is made of characters and anchors alone. -/
def Node.isFlat : Node → Bool
  | .empty | .literal _ | .anchor _ => true
  | .seq a b => a.isFlat && b.isFlat
  | _ => false

/-- A sequence of flat parts is flat. -/
theorem isFlat_seqOf {ns : List Node} (h : ∀ n ∈ ns, n.isFlat = true) :
    (Node.seqOf ns).isFlat = true := by
  induction ns with
  | nil => rfl
  | cons n ns ih =>
    obtain ⟨hn, hns⟩ := List.forall_mem_cons.1 h
    cases ns with
    | nil => exact hn
    | cons m ns =>
      rw [Node.seqOf, Node.isFlat, hn, ih hns]
      · rfl
      · simp

/-- Such a node has no groups, references, calls and look-behinds, and nothing in it is left to
complete. -/
theorem flat_parts {n : Node} (h : n.isFlat = true) :
    n.groups = [] ∧ n.backrefs = [] ∧ n.calls = [] ∧
      (∀ hasGroup, behindsAllowed hasGroup n = true) ∧ behindsNear n = true ∧
      ∀ called count, n.complete called count = n := by
  induction n with
  | empty => simp [Node.groups, Node.backrefs, Node.calls, behindsAllowed, behindsNear, Node.complete]
  | literal c =>
    simp [Node.groups, Node.backrefs, Node.calls, behindsAllowed, behindsNear, Node.complete]
  | anchor a =>
    simp [Node.groups, Node.backrefs, Node.calls, behindsAllowed, behindsNear, Node.complete]
  | seq a b iha ihb =>
    obtain ⟨ha, hb⟩ := Bool.and_eq_true_iff.1 h
    obtain ⟨hgroups, hrefs, hcalls, hallowed, hnear, hcomplete⟩ := iha ha
    obtain ⟨hgroups', hrefs', hcalls', hallowed', hnear', hcomplete'⟩ := ihb hb
    simp [Node.groups, Node.backrefs, Node.calls, behindsAllowed, behindsNear, Node.complete,
      hgroups, hrefs, hcalls, hallowed, hnear, hcomplete, hgroups', hrefs', hcalls', hallowed',
      hnear', hcomplete']
  | _ => exact absurd h (by simp [Node.isFlat])

/-- **A pattern that is read as such a node** is compiled to that node. -/
theorem ofPattern_of_isFlat {n : Node} (hread : readPattern cs = .ok (n, {}))
    (hn : n.isFlat = true) : Program.ofPattern cs = .ok ⟨n, 0, [], []⟩ := by
  obtain ⟨hgroups, hrefs, hcalls, hallowed, hnear, hcomplete⟩ := flat_parts hn
  have hkeep : keepNamed n {} = .ok (n, {}) := rfl
  have hcheck : checkReferences n {} = .ok () := by
    simp [checkReferences, hrefs, hcalls]
    rfl
  unfold Program.ofPattern
  rw [hread]
  simp only [bind, Except.bind, hkeep, hcheck]
  simp [checkRecursion, hgroups, hcalls, hallowed, hnear, hcomplete]
  rfl

/-! ## Escaped texts -/

/-- An expression that matches a text. -/
def literalProgram (cs : List Char) : Program := ⟨.seqOf (literals cs), 0, [], []⟩

/-- An expression that matches a text that is a line. -/
def lineProgram (cs : List Char) : Program :=
  ⟨.seqOf (.anchor .lineStart :: (literals cs ++ [.anchor .lineEnd])), 0, [], []⟩

/-- The characters of a text are flat. -/
theorem isFlat_of_mem_literals {n : Node} (hn : n ∈ literals cs) : n.isFlat = true := by
  obtain ⟨c, -, rfl⟩ := List.mem_map.1 hn
  rfl

/-- So is the program for a text. -/
theorem isFlat_literalProgram (cs : List Char) : (literalProgram cs).root.isFlat = true :=
  isFlat_seqOf fun _ hn => isFlat_of_mem_literals hn

/-- So is the program for a line. -/
theorem isFlat_lineProgram (cs : List Char) : (lineProgram cs).root.isFlat = true := by
  apply isFlat_seqOf
  rw [List.forall_mem_cons, List.forall_mem_append, List.forall_mem_singleton]
  exact ⟨rfl, fun _ hn => isFlat_of_mem_literals hn, rfl⟩

/-- Escaping makes no text shorter. -/
theorem length_le_length_escape (cs : List Char) : cs.length ≤ (escape cs).length := by
  induction cs with
  | nil => exact Nat.le_refl _
  | cons c cs ih =>
    cases hc : isMeta c with
    | true =>
      rw [escape_cons_meta hc, List.length_cons, List.length_cons, List.length_cons]
      omega
    | false =>
      rw [escape_cons_plain hc, List.length_cons, List.length_cons]
      omega

/-- **An escaped text is a pattern**, and its expression has the characters of the text one after the
other. -/
theorem compile_escape (cs : List Char) :
    compile (String.ofList (escape cs)) = .ok ⟨String.ofList (escape cs), literalProgram cs⟩ := by
  have hlength := length_le_length_escape cs
  obtain ⟨fuel, hfuel⟩ : ∃ fuel, fuelFor (escape cs) = fuel + 1 + cs.length + 1 := by
    refine ⟨fuelFor (escape cs) - 2 - cs.length, ?_⟩
    unfold fuelFor
    omega
  have hend : readBranch (fuel + 1) {} {} [] = .ok (([] : List Node).map .node, {}, []) := rfl
  have hbranch : readBranch (fuel + 1 + cs.length) {} {} (escape cs) =
      .ok ((literals cs).map .node, {}, []) := by
    have hread := readBranch_escape inert_nil hend cs
    rwa [List.append_nil, List.append_nil] at hread
  have hpattern : readPattern (escape cs) = .ok (.seqOf (literals cs), {}) :=
    readPattern_of_readBranch hfuel hbranch
  unfold compile
  rw [String.toList_ofList, ofPattern_of_isFlat hpattern (isFlat_literalProgram cs)]
  rfl

/-- **Between the anchors of a line, too.** -/
theorem compile_line_escape (cs : List Char) :
    compile (String.ofList ('^' :: (escape cs ++ ['$']))) =
      .ok ⟨String.ofList ('^' :: (escape cs ++ ['$'])), lineProgram cs⟩ := by
  have hlength := length_le_length_escape cs
  obtain ⟨fuel, hfuel⟩ : ∃ fuel, fuelFor ('^' :: (escape cs ++ ['$'])) =
      fuel + 1 + 1 + cs.length + 1 + 1 := by
    refine ⟨fuelFor ('^' :: (escape cs ++ ['$'])) - 4 - cs.length, ?_⟩
    simp only [fuelFor, List.length_cons, List.length_append]
    omega
  have hend : readBranch (fuel + 1 + 1) {} {} ['$'] =
      .ok ([Node.anchor .lineEnd].map .node, {}, []) := rfl
  have hread : readBranch (fuel + 1 + 1 + cs.length) {} {} (escape cs ++ ['$']) =
      .ok ((literals cs ++ [Node.anchor .lineEnd]).map .node, {}, []) :=
    readBranch_escape inert_dollar hend cs
  have hstart : readItem (fuel + 1 + 1 + cs.length) {} {} ('^' :: (escape cs ++ ['$'])) =
      .ok (.pieces [.node (.anchor .lineStart)], {}, escape cs ++ ['$']) := by
    have hone : fuel + 1 + 1 + cs.length = fuel + 1 + cs.length + 1 := by omega
    rw [hone]
    rfl
  have hbranch : readBranch (fuel + 1 + 1 + cs.length + 1) {} {} ('^' :: (escape cs ++ ['$'])) =
      .ok ((.anchor .lineStart :: (literals cs ++ [.anchor .lineEnd])).map .node, {}, []) :=
    readBranch_item (by decide) (by decide) (by decide) hstart (inert_dollar.escape cs) hread
  have hpattern := readPattern_of_readBranch hfuel hbranch
  unfold compile
  rw [String.toList_ofList, ofPattern_of_isFlat hpattern (isFlat_lineProgram cs)]
  rfl

end ScopePaint.Regex
