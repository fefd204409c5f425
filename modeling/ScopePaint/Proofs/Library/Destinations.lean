import ScopePaint.Proofs.Library.Loaded

/-!
# What includes lead to

An include that stands for something leads to patterns of a grammar, and has a key
(`Library.Destination`). In a library that came of registering grammars, all destinations that a
registered grammar can lead to are patterns of registered grammars, and there are only finitely many
keys. If no scope name holds the mark that includes use between a scope and the name of a pattern,
two destinations with the same key are the same (`Library.Destination.Offered.unique`). So a key on
the way tells that the walk has come back to where it was.

If grammars are changed but keep their scope names and the names of their patterns, includes are
followed to the same places as before (`Library.Change.follow`).
-/

set_option autoImplicit false

namespace ScopePaint

namespace Library

/-! ## Scope names -/

/-- Each scope name stands for a grammar that has it. -/
def Named (lib : Library) : Prop :=
  ∀ entry ∈ lib.names, ∃ m, lib.members[entry.2]? = some m ∧ m.grammar.scopeName.text = entry.1

/-- No scope name holds the mark between a scope and the name of a pattern. -/
def Separable (lib : Library) : Prop := ∀ entry ∈ lib.names, '#' ∉ entry.1.toList

/-- A grammar is the one that its scope name stands for. -/
def Stands (lib : Library) (g : Grammar) : Prop := lib.find? g.scopeName.text = some g

/-- Each scope name still stands for a grammar that has it once another one is registered. -/
theorem Named.register {lib : Library} (h : lib.Named) (g : Grammar) :
    (lib.register g).1.Named := by
  intro entry hentry
  rw [names_register, List.mem_cons, List.mem_filter] at hentry
  rw [members_register]
  rcases hentry with rfl | ⟨hentry, -⟩
  · exact ⟨{ grammar := g.place lib.members.length }, by simp, rfl⟩
  · obtain ⟨m, hm, hscope⟩ := h entry hentry
    have hlt := (List.getElem?_eq_some_iff.1 hm).1
    exact ⟨m, by rw [List.getElem?_append_left hlt, hm], hscope⟩

/-- In libraries with the same grammars scope names stand for grammars alike. -/
theorem SameGrammars.named {a b : Library} (hs : SameGrammars a b) (h : a.Named) : b.Named := by
  intro entry hentry
  obtain ⟨m, hm, hscope⟩ := h entry (hs.names ▸ hentry)
  obtain ⟨m', hm', hg⟩ := hs.member hm
  exact ⟨m', hm', hg ▸ hscope⟩

/-- In every library that was built each scope name stands for a grammar that has it. -/
theorem Built.named {lib : Library} (h : lib.Built) : lib.Named := by
  induction h with
  | empty options => exact fun entry hentry => absurd hentry (by simp [Library.empty])
  | register g _ ih => exact ih.register g
  | queried hq hbuilt ih => exact (hq.agrees hbuilt.sound).toSameGrammars.named ih

section Find

variable {lib : Library} {scope : String} {g : Grammar}

/-- A scope name that a grammar was found under is written down for it. -/
theorem exists_entry_of_find? (h : lib.find? scope = some g) :
    ∃ id, (scope, id) ∈ lib.names ∧ lib.grammar? id = some g := by
  obtain ⟨id, hid, hg⟩ := Option.bind_eq_some_iff.1 h
  obtain ⟨front, back, hnames, -⟩ := List.lookup_eq_some_iff.1 hid
  exact ⟨id, by rw [hnames]; simp, hg⟩

/-- **A grammar has the scope name that it was found under.** -/
theorem Named.scopeName_of_find? (hn : lib.Named) (h : lib.find? scope = some g) :
    g.scopeName.text = scope := by
  obtain ⟨id, hid, hg⟩ := exists_entry_of_find? h
  obtain ⟨m, hm, hscope⟩ := hn _ hid
  rw [grammar?, hm] at hg
  obtain rfl := Option.some.inj hg
  exact hscope

/-- What a scope name stands for is what its own name stands for. -/
theorem Named.stands_of_find? (hn : lib.Named) (h : lib.find? scope = some g) : lib.Stands g := by
  unfold Stands
  rw [hn.scopeName_of_find? h, h]

/-- The name of a grammar that can be included does not hold the mark. -/
theorem Separable.not_mem (hsep : lib.Separable) (h : lib.Stands g) :
    '#' ∉ g.scopeName.text.toList := by
  obtain ⟨id, hid, -⟩ := exists_entry_of_find? h
  exact hsep _ hid

/-- A grammar that counts is the one that its scope name stands for. -/
theorem stands_of_isRegistered {id : Nat} {m : Member} (hm : lib.members[id]? = some m)
    (h : lib.isRegistered id = true) : lib.Stands m.grammar := by
  have hg : lib.grammar? id = some m.grammar := by rw [grammar?, hm]; rfl
  unfold isRegistered at h
  rw [hg] at h
  unfold Stands find?
  rw [eq_of_beq h]
  exact hg

end Find

/-! ## Destinations -/

/-- What an include stands for: patterns of a grammar, and the key of the include. -/
structure Destination where
  key : String
  grammar : Grammar
  patterns : List Pattern

namespace Destination

/-- All of a grammar. -/
def whole (g : Grammar) : Destination := ⟨selfKey g.scopeName.text, g, g.patterns⟩

/-- A named pattern of a grammar. -/
def entry (g : Grammar) (name : String) (p : Pattern) : Destination :=
  ⟨entryKey g.scopeName.text name, g, [p]⟩

end Destination

/-- What an include in the grammar `g` stands for, if there is such a thing. -/
def destination? (lib : Library) (g : Grammar) : Include → Option Destination
  | .self => some (.whole g)
  | .repository name => (g.find? name).map (.entry g name)
  | .grammar scope none => (lib.find? scope).map .whole
  | .grammar scope (some name) =>
    (lib.find? scope).bind fun other => (other.find? name).map (.entry other name)

section Follow

variable {lib : Library} (expand : List String → Grammar → List Pattern → List Finding)
  (visiting : List String) {g : Grammar} {target : Include}

/-- Following an include of nothing tells so. -/
theorem follow_of_none (h : lib.destination? g target = none) :
    ∃ e, lib.follow expand visiting g target = [.missing e] := by
  match target with
  | .self => exact absurd h (by simp [destination?])
  | .repository name =>
    rw [destination?, Option.map_eq_none_iff] at h
    exact ⟨_, by simp only [follow, followEntry, h]; rfl⟩
  | .grammar scope none =>
    rw [destination?, Option.map_eq_none_iff] at h
    exact ⟨_, by simp only [follow, h]; rfl⟩
  | .grammar scope (some name) =>
    rw [destination?] at h
    cases hother : lib.find? scope with
    | none => exact ⟨_, by simp only [follow, hother]; rfl⟩
    | some other =>
      rw [hother, Option.bind_some, Option.map_eq_none_iff] at h
      exact ⟨_, by simp only [follow, followEntry, hother, h]; rfl⟩

/-- Following an include goes where it leads to, or tells that the walk was there already. -/
theorem follow_of_some (hn : lib.Named) {d : Destination}
    (h : lib.destination? g target = some d) :
    ∃ warning, lib.follow expand visiting g target =
      if visiting.contains d.key then [.cycle warning]
      else expand (d.key :: visiting) d.grammar d.patterns := by
  match target with
  | .self =>
    obtain rfl := Option.some.inj h
    exact ⟨_, rfl⟩
  | .repository name =>
    obtain ⟨p, hp, rfl⟩ := Option.map_eq_some_iff.1 h
    exact ⟨_, by simp only [follow, followEntry, hp]; rfl⟩
  | .grammar scope none =>
    obtain ⟨other, hother, rfl⟩ := Option.map_eq_some_iff.1 h
    refine ⟨.includeCycle (selfKey scope) g.scopeName.text, ?_⟩
    simp only [follow, followGrammar, hother, Destination.whole, hn.scopeName_of_find? hother]
  | .grammar scope (some name) =>
    obtain ⟨other, hother, h⟩ := Option.bind_eq_some_iff.1 h
    obtain ⟨p, hp, rfl⟩ := Option.map_eq_some_iff.1 h
    exact ⟨_, by simp only [follow, followEntry, hother, hp]; rfl⟩

end Follow

/-! ## Following includes after a change of grammars -/

/-- A change of grammars, of their named patterns and of what walks meet: the grammars keep their
scope names, their patterns keep their names, and walks are cut as before. -/
structure Change (grammar : Grammar → Grammar) (entry : Grammar → Pattern → Pattern)
    (findings : List Finding → List Finding) : Prop where
  scopeName : ∀ g, (grammar g).scopeName = g.scopeName
  find? : ∀ g name, (grammar g).find? name = (g.find? name).map (entry g)
  cycle : ∀ warning, findings [.cycle warning] = [.cycle warning]

namespace Change

variable {a b : Library} {grammar : Grammar → Grammar} {entry : Grammar → Pattern → Pattern}
  {findings : List Finding → List Finding}
  {expand expand' : List String → Grammar → List Pattern → List Finding}

/-- An include of a whole grammar meets the changed findings. -/
theorem followGrammar (h : Change grammar entry findings)
    (hwhole : ∀ visiting g, expand' visiting (grammar g) (grammar g).patterns =
      findings (expand visiting g g.patterns)) (visiting : List String) (g target : Grammar)
    (key : String) :
    Library.followGrammar expand' visiting (grammar g) (grammar target) key =
      findings (Library.followGrammar expand visiting g target key) := by
  unfold Library.followGrammar
  rw [h.scopeName]
  split
  · exact (h.cycle _).symm
  · exact hwhole (key :: visiting) target

/-- An include of a named pattern meets the changed findings. -/
theorem followEntry (h : Change grammar entry findings)
    (hentry : ∀ visiting g p, expand' visiting (grammar g) [entry g p] =
      findings (expand visiting g [p])) (visiting : List String) (g : Grammar) (name : String)
    (hmissing : g.find? name = none → ∀ e, findings [.missing e] = [.missing e]) :
    Library.followEntry expand' visiting (grammar g) name =
      findings (Library.followEntry expand visiting g name) := by
  unfold Library.followEntry
  rw [h.find?, h.scopeName]
  cases hp : g.find? name with
  | none => exact (hmissing hp _).symm
  | some p =>
    dsimp only [Option.map_some]
    split
    · exact (h.cycle _).symm
    · exact hentry _ g p

/-- **An include is followed to what was met before, changed**, if patterns are walked over so. Errors
have to be kept only where the include stands for nothing. -/
theorem follow (h : Change grammar entry findings)
    (hfind : ∀ scope, b.find? scope = (a.find? scope).map grammar)
    (hwhole : ∀ visiting g, expand' visiting (grammar g) (grammar g).patterns =
      findings (expand visiting g g.patterns))
    (hentry : ∀ visiting g p, expand' visiting (grammar g) [entry g p] =
      findings (expand visiting g [p])) (visiting : List String) (g : Grammar) (target : Include)
    (hmissing : a.destination? g target = none → ∀ e, findings [.missing e] = [.missing e]) :
    b.follow expand' visiting (grammar g) target =
      findings (a.follow expand visiting g target) := by
  match target with
  | .self =>
    have hwalk := h.followGrammar hwhole visiting g g (selfKey g.scopeName.text)
    unfold Library.follow
    dsimp only
    rw [h.scopeName, hwalk]
  | .repository name =>
    exact h.followEntry hentry visiting g name fun hp => hmissing (by rw [destination?, hp]; rfl)
  | .grammar scope name =>
    unfold Library.follow
    dsimp only
    rw [hfind scope]
    cases hother : a.find? scope with
    | none =>
      have hnone : a.destination? g (.grammar scope name) = none := by
        cases name <;> rw [destination?, hother] <;> rfl
      dsimp only [Option.map_none]
      rw [h.scopeName]
      exact (hmissing hnone _).symm
    | some other =>
      cases name with
      | none => exact h.followGrammar hwhole visiting g other (selfKey scope)
      | some name =>
        refine h.followEntry hentry visiting other name fun hp => hmissing ?_
        rw [destination?, hother, Option.bind_some, hp, Option.map_none]

end Change

/-! ## Destinations in registered grammars -/

/-- A destination in a grammar that its scope name stands for. -/
inductive Destination.Offered (lib : Library) : Destination → Prop
  | whole {g : Grammar} (hg : lib.Stands g) : Offered lib (.whole g)
  | entry {g : Grammar} (hg : lib.Stands g) {name : String} {p : Pattern}
      (hp : g.find? name = some p) : Offered lib (.entry g name p)

/-- The keys of includes of a grammar and of its named patterns. -/
def keysOf (g : Grammar) : List String :=
  selfKey g.scopeName.text :: g.repository.map fun named => entryKey g.scopeName.text named.1

/-- All keys that includes of registered grammars can have. -/
def keys (lib : Library) : List String := lib.members.flatMap fun m => keysOf m.grammar

/-- There are no more keys than are counted. -/
theorem length_keys_le_keyCount (lib : Library) (g : Grammar) :
    lib.keys.length ≤ lib.keyCount g := by
  have hlength : ∀ members : List Member,
      (members.flatMap fun m => keysOf m.grammar).length =
        (members.map fun m => m.grammar.repository.length + 1).foldr (· + ·) 0 := by
    intro members
    induction members with
    | nil => rfl
    | cons m members ih =>
      rw [List.flatMap_cons, List.length_append, ih, List.map_cons, List.foldr_cons]
      simp [keysOf]
  unfold keys keyCount
  rw [hlength]
  omega

/-- Different scopes have different keys. -/
theorem selfKey_injective {s t : String} (h : selfKey s = selfKey t) : s = t := by
  have hchars := congrArg String.toList h
  simp only [selfKey, String.toList_append] at hchars
  exact String.toList_injective (List.append_cancel_right hchars)

/-- Texts with a character between two parts are the same only if the parts are, if the character is
not in the first one. -/
theorem append_cons_inj_of_not_mem {c : Char} {s t x y : List Char} (hs : c ∉ s) (ht : c ∉ t)
    (h : s ++ c :: x = t ++ c :: y) : s = t ∧ x = y := by
  rcases List.append_eq_append_iff.1 h with ⟨mid, hst, hrest⟩ | ⟨mid, hst, hrest⟩
  · cases mid with
    | nil => exact ⟨by rw [hst, List.append_nil], (List.cons.inj hrest).2⟩
    | cons a mid =>
      obtain rfl := (List.cons.inj hrest).1
      exact absurd (by rw [hst]; simp) ht
  · cases mid with
    | nil => exact ⟨by rw [hst, List.append_nil], (List.cons.inj hrest).2.symm⟩
    | cons a mid =>
      obtain rfl := (List.cons.inj hrest).1
      exact absurd (by rw [hst]; simp) hs

/-- The key of a named pattern can be taken apart at the first mark in it. -/
theorem entryKey_injective {s t name other : String} (hs : '#' ∉ s.toList) (ht : '#' ∉ t.toList)
    (h : entryKey s name = entryKey t other) : s = t ∧ name = other := by
  have hchars : s.toList ++ '#' :: name.toList = t.toList ++ '#' :: other.toList := by
    simpa [entryKey] using congrArg String.toList h
  obtain ⟨hscope, hname⟩ := append_cons_inj_of_not_mem hs ht hchars
  exact ⟨String.toList_injective hscope, String.toList_injective hname⟩

/-- The key of a whole grammar has no mark in it, and is not that of a named pattern. -/
theorem selfKey_ne_entryKey {s t name : String} (hs : '#' ∉ s.toList) :
    selfKey s ≠ entryKey t name := by
  intro h
  have hmem : '#' ∈ (entryKey t name).toList := by simp [entryKey]
  rw [← h] at hmem
  simp [selfKey, hs] at hmem

namespace Destination

variable {lib : Library}

/-- A destination lies in a grammar that its scope name stands for. -/
theorem Offered.stands {d : Destination} (h : d.Offered lib) : lib.Stands d.grammar := by
  cases h with
  | whole hg => exact hg
  | entry hg _ => exact hg

/-- **A registered grammar leads to registered grammars.** -/
theorem offered_of_destination? (hn : lib.Named) {g : Grammar} (hg : lib.Stands g)
    {target : Include} {d : Destination} (h : lib.destination? g target = some d) :
    d.Offered lib := by
  match target with
  | .self =>
    obtain rfl := Option.some.inj h
    exact .whole hg
  | .repository name =>
    obtain ⟨p, hp, rfl⟩ := Option.map_eq_some_iff.1 h
    exact .entry hg hp
  | .grammar scope none =>
    obtain ⟨other, hother, rfl⟩ := Option.map_eq_some_iff.1 h
    exact .whole (hn.stands_of_find? hother)
  | .grammar scope (some name) =>
    obtain ⟨other, hother, h⟩ := Option.bind_eq_some_iff.1 h
    obtain ⟨p, hp, rfl⟩ := Option.map_eq_some_iff.1 h
    exact .entry (hn.stands_of_find? hother) hp

/-- The key of a destination is one of the keys of the library. -/
theorem Offered.key_mem {d : Destination} (h : d.Offered lib) : d.key ∈ lib.keys := by
  obtain ⟨m, hm, hg⟩ := mem_of_find? h.stands
  refine List.mem_flatMap.2 ⟨m, hm, ?_⟩
  rw [hg]
  cases h with
  | whole _ => exact List.mem_cons_self
  | @entry g _ name p hp =>
    obtain ⟨front, back, hlist, -⟩ := List.lookup_eq_some_iff.1 hp
    refine List.mem_cons_of_mem _ (List.mem_map.2 ⟨(name, p), ?_, rfl⟩)
    change (name, p) ∈ g.repository
    rw [hlist]
    simp

/-- **A key tells what an include stands for**, if no scope name holds the mark. -/
theorem Offered.unique (hsep : lib.Separable) {d d' : Destination} (h : d.Offered lib)
    (h' : d'.Offered lib) (hkey : d.key = d'.key) : d = d' := by
  have hs := hsep.not_mem h.stands
  have hs' := hsep.not_mem h'.stands
  cases h with
  | @whole g hg =>
    cases h' with
    | @whole g' hg' =>
      have hscope : g.scopeName.text = g'.scopeName.text := selfKey_injective hkey
      obtain rfl : g = g' := Option.some.inj (hg.symm.trans (hscope ▸ hg'))
      rfl
    | entry hg' _ => exact absurd hkey (selfKey_ne_entryKey hs)
  | @entry g hg name p hp =>
    cases h' with
    | whole hg' => exact absurd hkey.symm (selfKey_ne_entryKey hs')
    | @entry g' hg' name' p' hp' =>
      obtain ⟨hscope, rfl⟩ := entryKey_injective hs hs' hkey
      obtain rfl : g = g' := Option.some.inj (hg.symm.trans (hscope ▸ hg'))
      obtain rfl : p = p' := Option.some.inj (hp.symm.trans hp')
      rfl

end Destination

end Library

end ScopePaint
