import ScopePaint.Proofs.Tokens.Lockstep
import ScopePaint.Theme.Default

/-!
# Equivalent states

Two states are equivalent if their scopes agree in what is compared of them (`Scope.mark`): the name,
the region by its place, the end by its source, and whether it is a content. In states that
tokenizing leads to nothing else is left to differ but numbers and styles: the place tells the
region and with it the rules, and the source of an end tells its expression
(`ScopeStack.Shaped.alike`). So lines are tokenized in the same way from equivalent states, and end
in equivalent states again (`Library.tokenizeLine_equivalent`).
-/

set_option autoImplicit false

namespace ScopePaint

/-! ## What is compared -/

/-- What is compared of scopes. -/
def Scope.mark (s : Scope) : Option ScopeName × Bool × Option RegionPlace × Option String :=
  (s.name, s.isContent, s.openedBy.map (·.place), s.stop.map (·.source))

/-- Scopes are equivalent if their marks are the same. -/
theorem Scope.isEquivalent_iff {s t : Scope} : s.isEquivalent t = true ↔ s.mark = t.mark := by
  simp [Scope.isEquivalent, Scope.mark, and_assoc]

/-- **States are equivalent if the same is compared of their scopes.** -/
theorem LineState.isEquivalent_iff {a b : LineState} :
    a.isEquivalent b = true ↔ a.stack.map Scope.mark = b.stack.map Scope.mark := by
  unfold LineState.isEquivalent
  obtain ⟨s⟩ := a
  obtain ⟨t⟩ := b
  dsimp only
  induction s generalizing t with
  | nil => cases t <;> simp
  | cons top below ih =>
    cases t with
    | nil => simp
    | cons top' below' =>
      rw [List.isEqv_cons_cons, Bool.and_eq_true, ih, Scope.isEquivalent_iff, List.map_cons,
        List.map_cons, List.cons.injEq]

/-! ## What is not compared -/

/-- Compiling keeps the source. -/
theorem Regex.source_of_compile {source : String} {r : Regex} (h : Regex.compile source = .ok r) :
    r.source = source := by
  obtain ⟨program, -, h⟩ := bind_eq_ok_iff.1 h
  obtain rfl := Except.ok.inj h
  rfl

/-- **The source tells the end of a region**, whatever matches it was made of. -/
theorem EndPattern.resolve_unique {e : EndPattern} {line line' : List Char} {hit hit' : Match}
    {r r' : Regex} (h : e.resolve line hit = .ok r) (h' : e.resolve line' hit' = .ok r')
    (hsource : r.source = r'.source) : r = r' := by
  cases e with
  | fixed regex => exact (Except.ok.inj h).symm.trans (Except.ok.inj h')
  | backReferencing source =>
    unfold EndPattern.resolve at h h'
    dsimp only at h h'
    rw [← Regex.source_of_compile h, hsource, Regex.source_of_compile h', h'] at h
    exact (Except.ok.inj h).symm

namespace ScopeStack

variable {base : Library} {id : Nat} {theme theme' : Theme} {s t : ScopeStack}

/-- **Stacks that can arise and of which the same is compared are alike**, each with the styles of
its theme. -/
theorem Shaped.alike (hs : base.Sound) (ha : Shaped base id (fun x => x = theme) s)
    (hb : Shaped base id (fun x => x = theme') t) (h : s.map Scope.mark = t.map Scope.mark) :
    ScopeStack.Alike (fun n => n) (fun _ _ => True) (theme = theme') s t := by
  -- The innermost scopes tell by what is compared of them how both stacks were made; what can only
  -- be told from the stack around them is the induction hypothesis.
  induction ha generalizing t with
  | root hx hg hrules =>
    cases hb with
    | root hx' hg' hrules' =>
      obtain rfl := Option.some.inj (hg.symm.trans hg')
      obtain rfl := Except.ok.inj (hrules.symm.trans hrules')
      subst hx hx'
      refine .cons ⟨trivial, rfl, ?_, rfl, rfl, rfl, fun hsame => ?_⟩ .nil
      · exact (Rule.map_renumber_self _).symm
      · rw [hsame]
    | region hbelow' _ _ _ _ _ =>
      exact absurd (List.map_eq_nil_iff.1 (List.cons.inj h).2.symm) hbelow'.ne_nil
    | content hbelow' _ _ _ _ =>
      exact absurd (List.map_eq_nil_iff.1 (List.cons.inj h).2.symm) hbelow'.ne_nil
  | @region x number r ps stop rules below hbelow hx _ hr hstop hrules ih =>
    cases hb with
    | root _ _ _ => exact absurd (List.map_eq_nil_iff.1 (List.cons.inj h).2) hbelow.ne_nil
    | @region x' number' r' ps' stop' rules' below' hbelow' hx' _ hr' hstop' hrules' =>
      obtain ⟨hmark, hrest⟩ := List.cons.inj h
      simp only [Scope.mark, Scope.inside, Option.map_some, Prod.mk.injEq, Option.some.injEq,
        true_and] at hmark
      obtain ⟨-, hplace, hsource⟩ := hmark
      obtain ⟨rfl, rfl⟩ := Prod.mk.inj (hs.placed.unique hr hr' hplace)
      obtain rfl := Except.ok.inj (hrules.symm.trans hrules')
      obtain ⟨line, hit, hstop⟩ := hstop
      obtain ⟨line', hit', hstop'⟩ := hstop'
      obtain rfl := EndPattern.resolve_unique hstop hstop' hsource
      have hbelows := ih hbelow' hrest
      subst hx hx'
      have hopen := Scope.inside_alike (n := number) (m := number') (fun hsame => hsame) trivial
        hbelows r.scope
      have hrules := (Rule.map_renumber_self rules).symm
      exact .cons { hopen with rules := hrules, stop := rfl, openedBy := rfl } hbelows
    | content _ _ _ _ _ => exact absurd (List.cons.inj h).1 (by simp [Scope.mark, Scope.inside])
  | @content x number r name top below hbelow hx _ hopened hname ih =>
    cases hb with
    | root _ _ _ => exact absurd (List.map_eq_nil_iff.1 (List.cons.inj h).2) hbelow.ne_nil
    | region _ _ _ _ _ _ => exact absurd (List.cons.inj h).1 (by simp [Scope.mark, Scope.inside])
    | @content x' number' r' name' top' below' hbelow' hx' _ hopened' hname' =>
      obtain ⟨hmark, hrest⟩ := List.cons.inj h
      have hbelows := ih hbelow' hrest
      have htop := (List.forall₂_cons.1 hbelows).1
      obtain rfl : name = name' := by
        simp only [Scope.mark, Scope.inside, Prod.mk.injEq, Option.some.injEq] at hmark
        exact hmark.1
      subst hx hx'
      have hopen := Scope.inside_alike (n := number) (m := number') (fun hsame => hsame) trivial
        hbelows (some name)
      exact .cons { hopen with rules := htop.rules, isContent := rfl } hbelows

/-! ## Pairing numbers -/

/-- The numbers of a stack get smaller outwards. -/
theorem Shaped.pairwise {themes : Theme → Prop} (h : Shaped base id themes s) :
    s.Pairwise fun a b => b.number < a.number := by
  induction h with
  | root _ _ _ => exact List.pairwise_singleton _ _
  | region _ _ hnumber _ _ _ ih => exact List.pairwise_cons.2 ⟨hnumber, ih⟩
  | content _ _ hnumber _ _ ih => exact List.pairwise_cons.2 ⟨hnumber, ih⟩

/-- A number tells where in a stack its scope is. -/
theorem Shaped.index_unique {themes : Theme → Prop} (h : Shaped base id themes s) {i j : Nat}
    {a b : Scope} (ha : s[i]? = some a) (hb : s[j]? = some b) (hnumber : a.number = b.number) :
    i = j := by
  obtain ⟨hi, rfl⟩ := List.getElem?_eq_some_iff.1 ha
  obtain ⟨hj, rfl⟩ := List.getElem?_eq_some_iff.1 hb
  have hless := List.pairwise_iff_getElem.1 h.pairwise
  rcases Nat.lt_trichotomy i j with hlt | heq | hlt
  · have := hless i j hi hj hlt
    omega
  · exact heq
  · have := hless j i hj hi hlt
    omega

/-- The numbers of two stacks that are paired: those of scopes at the same place, and those that are
free, in their order. -/
inductive Paired (s t : ScopeStack) : Nat → Nat → Prop
  | old {i : Nat} {a b : Scope} (ha : s[i]? = some a) (hb : t[i]? = some b) :
      Paired s t a.number b.number
  | new (k : Nat) : Paired s t (freshNumber s + k) (freshNumber t + k)

/-- Being paired does not depend on the order. -/
theorem Paired.symm {n m : Nat} (h : Paired s t n m) : Paired t s m n := by
  cases h with
  | old ha hb => exact .old hb ha
  | new k => exact .new k

/-- A number is paired with one number only. -/
theorem leftUnique_paired {themes : Theme → Prop} (ht : Shaped base id themes t) :
    Relator.LeftUnique (Paired s t) := by
  intro n n' m h h'
  cases h with
  | @old i a b ha hb =>
    have hlt := number_lt_freshNumber b (List.mem_of_getElem? hb)
    generalize hm : b.number = m at h' hlt
    cases h' with
    | old ha' hb' =>
      obtain rfl := ht.index_unique hb hb' hm
      exact congrArg Scope.number (Option.some.inj (ha.symm.trans ha'))
    | new k => omega
  | new k =>
    generalize hm : freshNumber t + k = m at h'
    cases h' with
    | old ha' hb' =>
      have hlt := number_lt_freshNumber _ (List.mem_of_getElem? hb')
      omega
    | new k' => omega

/-- The pairing is one to one. -/
theorem biUnique_paired {themes themes' : Theme → Prop} (hs : Shaped base id themes s)
    (ht : Shaped base id themes' t) : Relator.BiUnique (Paired s t) :=
  ⟨leftUnique_paired ht, fun _ _ _ h h' => leftUnique_paired hs h.symm h'.symm⟩

/-- Stacks that are alike have numbers that are paired. -/
theorem Alike.paired {f : Nat → Nat} {R : Nat → Nat → Prop} {same : Prop}
    (h : ScopeStack.Alike f R same s t) : ScopeStack.Alike f (Paired s t) same s t := by
  obtain ⟨hlength, hget⟩ := List.forall₂_iff_get.1 h
  refine List.forall₂_iff_get.2 ⟨hlength, fun i hi hj => ?_⟩
  exact { hget i hi hj with
    number := .old (List.getElem?_eq_getElem hi) (List.getElem?_eq_getElem hj) }

/-- Stacks that are alike have the same marks. -/
theorem Alike.map_mark {R : Nat → Nat → Prop} {same : Prop} (h : ScopeStack.Alike (fun n => n) R same s t) :
    s.map Scope.mark = t.map Scope.mark := by
  refine map_eq_map_of_forall₂ h fun a b hab => ?_
  unfold Scope.mark
  rw [hab.name, hab.isContent, hab.openedBy, hab.stop, Region.map_renumber_self]

end ScopeStack

/-! ## Lines -/

namespace Library

/-- Results of tokenizing a line that differ at most in what themes decide: the same number of
tokens, with the same ranges and names of scopes, and equivalent states at the end. Under one theme
the styles are the same as well. -/
structure SameTokens (theme theme' : Theme) (x y : TokenLine × LineState) : Prop where
  ranges : x.1.tokens.map (·.range) = y.1.tokens.map (·.range)
  names : x.1.tokens.map (fun t => t.scopes.map (·.name)) =
    y.1.tokens.map fun t => t.scopes.map (·.name)
  styles : theme = theme' → x.1.tokens.map (fun t => t.scopes.map (·.style)) =
    y.1.tokens.map fun t => t.scopes.map (·.style)
  next : x.2.isEquivalent y.2 = true

/-- Having the same tokens carries over. -/
theorem SameTokens.trans {theme : Theme} {x y z : TokenLine × LineState}
    (h : SameTokens theme theme x y) (h' : SameTokens theme theme y z) :
    SameTokens theme theme x z where
  ranges := h.ranges.trans h'.ranges
  names := h.names.trans h'.names
  styles := fun hsame => (h.styles hsame).trans (h'.styles hsame)
  next := LineState.isEquivalent_iff.2
    ((LineState.isEquivalent_iff.1 h.next).trans (LineState.isEquivalent_iff.1 h'.next))

variable {base lib lib' : Library} {id : Nat} {theme theme' : Theme} {a b : LineState}

/-- Lines that are alike have the same tokens. -/
theorem sameTokens_of_alike {R : Nat → Nat → Prop} {x y : TokenLine × LineState}
    (htokens : x.1.Alike (fun n => n) R (theme = theme') y.1)
    (hstack : ScopeStack.Alike (fun n => n) R (theme = theme') x.2.stack y.2.stack) :
    SameTokens theme theme' x y where
  ranges := map_eq_map_of_forall₂ htokens.tokens fun _ _ h => h.range
  names := map_eq_map_of_forall₂ htokens.tokens fun _ _ h => h.scopes.map_name
  styles := fun hsame => map_eq_map_of_forall₂ htokens.tokens fun _ _ h =>
    map_eq_map_of_forall₂ h.scopes fun _ _ hab => hab.style hsame
  next := LineState.isEquivalent_iff.2 hstack.map_mark

/-- **From equivalent states a line is tokenized in the same way.** -/
theorem tokenizeLine_equivalent (hs : base.Sound) (hq : base.Queried lib)
    (hq' : base.Queried lib') (ha : base.Reaches id (fun x => x = theme) a)
    (hb : base.Reaches id (fun x => x = theme') b) (h : a.isEquivalent b = true)
    (line : List Char) :
    SameOutcome (SameTokens theme theme') (lib.tokenizeLine id theme line a).1
      (lib'.tokenizeLine id theme' line b).1 := by
  have hsa := ha.shaped hs
  have hsb := hb.shaped hs
  have halike := (hsa.alike hs hsb (LineState.isEquivalent_iff.1 h)).paired
  have hfresh : Fresh (ScopeStack.Paired a.stack b.stack) (ScopeStack.freshNumber a.stack)
      (ScopeStack.freshNumber b.stack) := ScopeStack.Paired.new
  have hline := tokenizeLine_alike (.refl base) hs hs hq hq' (ScopeStack.biUnique_paired hsa hsb)
    (fun hsame => hsame) (hsa.mono fun _ _ => trivial) (hsb.mono fun _ _ => trivial) halike hfresh
    line
  exact hline.imp fun _ _ hxy => sameTokens_of_alike hxy.1 hxy.2

/-- **Equivalence of states is sound.** It is an equivalence relation on the states that tokenizing
leads to; and from two equivalent states, each reached under a theme of its own, tokenizing any line
under these themes fails for the same reason or gives tokens with the same ranges and names of
scopes, and equivalent states at the end. If the themes are the same, so are the styles. -/
theorem isEquivalent_sound {lib : Library} (hb : lib.Built) (id : Nat) :
    Equivalence (fun a b : { s : LineState // lib.Reaches id (fun _ => True) s } =>
      a.1.isEquivalent b.1 = true) ∧
    ∀ (theme theme' : Theme) (a b : LineState) (lib₁ lib₂ : Library),
      lib.Reaches id (fun x => x = theme) a → lib.Reaches id (fun x => x = theme') b →
      a.isEquivalent b = true → lib.Queried lib₁ → lib.Queried lib₂ → ∀ line,
        SameOutcome (SameTokens theme theme') (lib₁.tokenizeLine id theme line a).1
          (lib₂.tokenizeLine id theme' line b).1 := by
  refine ⟨⟨fun a => ?_, fun h => ?_, fun h h' => ?_⟩, ?_⟩
  · exact LineState.isEquivalent_iff.2 rfl
  · exact LineState.isEquivalent_iff.2 (LineState.isEquivalent_iff.1 h).symm
  · exact LineState.isEquivalent_iff.2
      ((LineState.isEquivalent_iff.1 h).trans (LineState.isEquivalent_iff.1 h'))
  · intro theme theme' a b lib₁ lib₂ ha hb' h hq hq' line
    exact tokenizeLine_equivalent hb.sound hq hq' ha hb' h line

/-- A theme that gives no styles. -/
def plainTheme : Theme := ⟨"plain", [{ scope := ⟨rootScope⟩ }], by decide⟩

/-- A line of brackets at the start of a document under two themes. -/
theorem isEquivalent_sound_brackets :
    (bracketStart Theme.builtin).isEquivalent (bracketStart plainTheme) = true ∧
      SameOutcome (SameTokens Theme.builtin plainTheme)
        (bracketLibrary.tokenizeLine 0 Theme.builtin "[[a]".toList (bracketStart Theme.builtin)).1
        (bracketLibrary.tokenizeLine 0 plainTheme "[[a]".toList (bracketStart plainTheme)).1 := by
  have h : (bracketStart Theme.builtin).isEquivalent (bracketStart plainTheme) = true := by
    decide +kernel
  exact ⟨h, (isEquivalent_sound built_bracketLibrary 0).2 _ _ _ _ _ _
    (reaches_bracketStart (by decide +kernel) rfl) (reaches_bracketStart (by decide +kernel) rfl) h
    (.refl _) (.refl _) _⟩

end Library

end ScopePaint
