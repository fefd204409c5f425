import ScopePaint.Proofs.Library.GrammarFiles
import ScopePaint.Proofs.Theme.ThemeFiles

/-!
# Loading directories

Themes and grammars are loaded from directories in the same way: file after file, in the order of
the directories and of the paths in each of them, whatever the order in which the names in a
directory are given. What is loaded last under a name is what stands there in the end, and what
cannot be read changes nothing (`directories_loaded_in_order`).
-/

set_option autoImplicit false

namespace ScopePaint

/-- **Directories are loaded in order.** The files that hold a theme are put into a collection, and
those that hold a grammar are registered in a library, one after the other in the order in which the
directories list them; they are counted, and the others are passed over. The order in which names are
given makes no difference. A collection that begins with the built-in theme always has one with its
name, and each of its themes is found by its own name and by no other. -/
theorem directories_loaded_in_order (files : FileSource Id) (directories : List String) :
    (∃ listings, List.Forall₂ (files.Lists Theme.isThemeFile) directories listings ∧
      ∀ c : ThemeCollection, c.TakesIn (listings.flatten.filterMap (Theme.inFile? files))
        (Id.run (c.loadDirectories files directories))) ∧
    (∃ listings, List.Forall₂ (files.Lists Grammar.isGrammarFile) directories listings ∧
      ∀ lib : Library, lib.TakesIn (listings.flatten.filterMap (Grammar.inFile? files))
        (Id.run (lib.loadDirectories files directories))) ∧
    (∀ files', files.SameUpToOrder files' →
      (∀ c : ThemeCollection,
        c.loadDirectories files' directories = c.loadDirectories files directories) ∧
      ∀ lib : Library,
        lib.loadDirectories files' directories = lib.loadDirectories files directories) ∧
    ∀ c : ThemeCollection, c.Reachable → (∃ t, c.find? "default" = some t) ∧
      ∀ name t, c.find? name = some t ↔ t ∈ c.themes ∧ t.name = name := by
  refine ⟨⟨_, files.forall₂_lists_listed _ directories, fun c => ?_⟩,
    ⟨_, files.forall₂_lists_listed _ directories, fun lib => ?_⟩, fun files' h => ⟨fun c => ?_,
    fun lib => ?_⟩, fun c hc => ⟨hc.named.default, fun name t => hc.named.find?_eq_some_iff⟩⟩
  · exact c.takesIn_loadDirectories files directories
  · exact lib.takesIn_loadDirectories files directories
  · exact LoadedThemes.addDirectories_eq h _ directories
  · exact lib.loadDirectories_eq_of_sameUpToOrder h directories

end ScopePaint
