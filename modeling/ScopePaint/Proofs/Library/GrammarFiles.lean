import ScopePaint.Grammar.Loading
import ScopePaint.Proofs.Files.Directories
import ScopePaint.Proofs.Library.Registering

/-!
# Grammars from directories

Loading directories registers the grammars that their files hold, one after the other, and writes
warnings down (`Library.loadDirectories_eq`); what cannot be read is passed over, as if it were not
there. Of the grammars with one scope name the last one stands for it in the end
(`Library.find?_registerAll_last`), and other scope names go on standing for what they stood for
(`Library.find?_registerAll_of_ne`).
-/

set_option autoImplicit false

namespace ScopePaint

namespace Grammar

/-- The grammar that is loaded from a file, if one is. -/
def inFile? (files : FileSource Id) (path : String) : Option Grammar :=
  (Id.run (load files path)).1.toOption

/-- What loading some files gives: a result for each of them. -/
theorem loadFiles_fst (files : FileSource Id) (paths : List String) :
    (Id.run (loadFiles files paths)).1 =
      paths.map fun path => (path, (Id.run (load files path)).1) := by
  induction paths with
  | nil => rfl
  | cons path rest ih =>
    rw [List.map_cons, ← ih]
    rfl

/-- What loading directories gives: a result for each file that is listed, in order. -/
theorem loadDirectories_fst (files : FileSource Id) (directories : List String) :
    (Id.run (loadDirectories files directories)).1 =
      (directories.map (files.listed isGrammarFile)).flatten.map fun path =>
        (path, (Id.run (load files path)).1) := by
  induction directories with
  | nil => rfl
  | cons directory rest ih =>
    rw [List.map_cons, List.flatten_cons, List.map_append, ← ih]
    unfold FileSource.listed
    rw [loadDirectories]
    cases files.filesIn isGrammarFile directory with
    | error fault => rfl
    | ok paths =>
      rw [← loadFiles_fst]
      rfl

end Grammar

namespace Library

variable {lib : Library} {g old : Grammar} {gs : List Grammar} {scope : String}

/-! ## Registering one after the other -/

/-- Grammars are registered one after the other. -/
theorem registerAll_append (lib : Library) (gs gs' : List Grammar) :
    lib.registerAll (gs ++ gs') = (lib.registerAll gs).registerAll gs' := List.foldl_append

/-- There is a member for each of them. -/
theorem length_members_registerAll (lib : Library) (gs : List Grammar) :
    (lib.registerAll gs).members.length = lib.members.length + gs.length := by
  induction gs generalizing lib with
  | nil => rfl
  | cons g rest ih =>
    show ((lib.register g).1.registerAll rest).members.length = _
    rw [ih, members_register, List.length_append, List.length_cons, List.length_cons,
      List.length_nil]
    omega

/-- A scope name stands for the same number as before if no grammar with it is registered. -/
theorem id?_registerAll_of_ne (h : ∀ g ∈ gs, g.scopeName.text ≠ scope) :
    (lib.registerAll gs).id? scope = lib.id? scope := by
  induction gs generalizing lib with
  | nil => rfl
  | cons g rest ih =>
    obtain ⟨hg, hrest⟩ := List.forall_mem_cons.1 h
    show ((lib.register g).1.registerAll rest).id? scope = _
    rw [ih hrest, id?_register_of_ne lib g hg.symm]

/-- A scope name goes on standing for a grammar if no grammar with it is registered. -/
theorem find?_registerAll_of_ne (h : ∀ g ∈ gs, g.scopeName.text ≠ scope)
    (hold : lib.find? scope = some old) : (lib.registerAll gs).find? scope = some old := by
  induction gs generalizing lib with
  | nil => exact hold
  | cons g rest ih =>
    obtain ⟨hg, hrest⟩ := List.forall_mem_cons.1 h
    exact ih hrest (find?_register_of_ne lib g hg.symm hold)

/-- **The last grammar with a scope name** that is registered is the one that it stands for. -/
theorem find?_registerAll_last (lib : Library) (front : List Grammar) {behind : List Grammar}
    (h : ∀ later ∈ behind, later.scopeName.text ≠ g.scopeName.text) :
    (lib.registerAll (front ++ g :: behind)).find? g.scopeName.text =
      some (g.place (lib.members.length + front.length)) := by
  rw [registerAll_append]
  show (((lib.registerAll front).register g).1.registerAll behind).find? g.scopeName.text = _
  refine find?_registerAll_of_ne h ?_
  rw [find?_register_self, length_members_registerAll]

/-! ## Warnings -/

/-- Warnings are noted one after the other. -/
theorem warn_warn (lib : Library) (warnings more : List Warning) :
    (lib.warn warnings).warn more = lib.warn (warnings ++ more) := by
  unfold warn
  rw [List.append_assoc]

/-- Without warnings nothing is noted. -/
theorem warn_nil (lib : Library) : lib.warn [] = lib := by
  unfold warn
  rw [List.append_nil]

/-- Warnings may as well be written down after registering. -/
theorem registerAll_warn (lib : Library) (warnings : List Warning) (gs : List Grammar) :
    (lib.warn warnings).registerAll gs = (lib.registerAll gs).warn warnings := by
  induction gs generalizing lib with
  | nil => rfl
  | cons g rest ih =>
    show ((lib.warn warnings).register g).1.registerAll rest =
      ((lib.register g).1.registerAll rest).warn warnings
    rw [← ih, register_fst, register_fst]
    rfl

/-! ## Loading -/

/-- What was loaded is registered and counted, and for the rest there are warnings. -/
theorem registerLoaded_eq (lib : Library) (results : List (String × Except GrammarError Grammar)) :
    ∃ warnings, lib.registerLoaded results =
      ((lib.registerAll (results.filterMap fun result => result.2.toOption)).warn warnings,
        (results.filterMap fun result => result.2.toOption).length) := by
  induction results generalizing lib with
  | nil => exact ⟨[], by rw [warn_nil]; rfl⟩
  | cons result rest ih =>
    obtain ⟨path, e | g⟩ := result
    · obtain ⟨warnings, hrest⟩ := ih (lib.warn [.grammarFile path e])
      refine ⟨[.grammarFile path e] ++ warnings, ?_⟩
      rw [registerLoaded, hrest, registerAll_warn, warn_warn]
      rfl
    · obtain ⟨warnings, hrest⟩ := ih (lib.register g).1
      refine ⟨warnings, ?_⟩
      rw [registerLoaded, hrest]
      rfl

/-- **Loading directories** registers the grammars that the listed files hold, in their order. -/
theorem loadDirectories_eq (lib : Library) (files : FileSource Id) (directories : List String) :
    let loaded := (directories.map (files.listed Grammar.isGrammarFile)).flatten.filterMap
      (Grammar.inFile? files)
    ∃ warnings, Id.run (lib.loadDirectories files directories) =
      ((lib.registerAll loaded).warn warnings, loaded.length) := by
  intro loaded
  have hresults : ((Id.run (Grammar.loadDirectories files directories)).1.filterMap
      fun result => result.2.toOption) = loaded := by
    rw [Grammar.loadDirectories_fst, List.filterMap_map]
    rfl
  obtain ⟨warnings, hregister⟩ :=
    (lib.warn (Id.run (Grammar.loadDirectories files directories)).2).registerLoaded_eq
      (Id.run (Grammar.loadDirectories files directories)).1
  rw [hresults, registerAll_warn, warn_warn] at hregister
  exact ⟨_, hregister⟩

/-- A library in which some grammars were registered in order: the last one with a scope name is the
one that it stands for, and what no grammar took the place of is there as before. -/
structure TakesIn (lib : Library) (gs : List Grammar) (result : Library × Nat) : Prop where
  library : ∃ warnings, result.1 = (lib.registerAll gs).warn warnings
  count : result.2 = gs.length
  last : ∀ front g behind, gs = front ++ g :: behind →
    (∀ later ∈ behind, later.scopeName.text ≠ g.scopeName.text) →
    result.1.find? g.scopeName.text = some (g.place (lib.members.length + front.length))
  kept : ∀ scope, (∀ g ∈ gs, g.scopeName.text ≠ scope) → result.1.id? scope = lib.id? scope ∧
    ∀ old, lib.find? scope = some old → result.1.find? scope = some old

/-- **Directories are loaded** grammar by grammar. -/
theorem takesIn_loadDirectories (lib : Library) (files : FileSource Id)
    (directories : List String) :
    lib.TakesIn ((directories.map (files.listed Grammar.isGrammarFile)).flatten.filterMap
      (Grammar.inFile? files)) (Id.run (lib.loadDirectories files directories)) := by
  obtain ⟨warnings, hresult⟩ := lib.loadDirectories_eq files directories
  rw [hresult]
  refine ⟨⟨warnings, rfl⟩, rfl, ?_, ?_⟩
  · intro front g behind hgs hbehind
    rw [hgs]
    exact find?_registerAll_last lib front hbehind
  · intro scope hscope
    exact ⟨id?_registerAll_of_ne hscope, fun old hold => find?_registerAll_of_ne hscope hold⟩

end Library

/-! ## The order in which files are given -/

section Order

variable {files files' : FileSource Id}

/-- Loading a grammar does not depend on the order of listings. -/
theorem Grammar.load_eq (h : files.SameUpToOrder files') (path : String) :
    load files' path = load files path := by
  unfold load
  rw [h.read]

/-- Neither does loading several of them. -/
theorem Grammar.loadFiles_eq (h : files.SameUpToOrder files') (paths : List String) :
    loadFiles files' paths = loadFiles files paths := by
  induction paths with
  | nil => rfl
  | cons path rest ih => rw [loadFiles, loadFiles, load_eq h, ih]

/-- Neither does loading those in some directories. -/
theorem Grammar.loadDirectories_eq (h : files.SameUpToOrder files') (directories : List String) :
    loadDirectories files' directories = loadDirectories files directories := by
  induction directories with
  | nil => rfl
  | cons directory rest ih =>
    rw [loadDirectories, loadDirectories, h.filesIn_eq]
    cases files.filesIn isGrammarFile directory with
    | error fault => exact ih
    | ok paths =>
      simp only [loadFiles_eq h, ih]

/-- Neither does registering what is loaded from them. -/
theorem Library.loadDirectories_eq_of_sameUpToOrder (h : files.SameUpToOrder files')
    (lib : Library) (directories : List String) :
    lib.loadDirectories files' directories = lib.loadDirectories files directories := by
  unfold loadDirectories
  rw [Grammar.loadDirectories_eq h]

end Order

end ScopePaint
