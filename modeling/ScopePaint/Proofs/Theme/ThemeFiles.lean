import ScopePaint.Proofs.Files.Directories
import ScopePaint.Theme.Collection

/-!
# Themes from directories

Loading directories puts the themes that their files hold into a collection, one after the other
(`LoadedThemes.addDirectories_grows`); what cannot be read is passed over, as if it were not there.
Of the themes with one name the last one that is put in stays
(`ThemeCollection.find?_insertAll_last`), and what was there under another name stays as well
(`ThemeCollection.find?_insertAll_of_ne`).

A collection that begins with the built-in theme always has a theme with its name, and each of its
themes is found by its own name (`ThemeCollection.Reachable.named`).
-/

set_option autoImplicit false

namespace ScopePaint

/-- The theme that is loaded from a file, if one is. -/
def Theme.inFile? (files : FileSource Id) (path : String) : Option Theme :=
  (Id.run (Theme.load files path)).1.toOption

namespace ThemeCollection

variable {c : ThemeCollection} {t : Theme} {ts : List Theme} {name : String}

/-- Put themes in one after the other. -/
def insertAll (c : ThemeCollection) (ts : List Theme) : ThemeCollection := ts.foldl insert c

/-- Themes are inserted one after the other. -/
theorem insertAll_append (c : ThemeCollection) (ts ts' : List Theme) :
    c.insertAll (ts ++ ts') = (c.insertAll ts).insertAll ts' := List.foldl_append

/-! ## Looking for themes -/

/-- A theme that was inserted is found under its name. -/
theorem find?_insert_self (c : ThemeCollection) (t : Theme) : (c.insert t).find? t.name = some t := by
  unfold find? insert
  rw [List.find?_cons_of_pos (by simp)]

/-- Under other names there is what was there before. -/
theorem find?_insert_of_ne (h : t.name ≠ name) : (c.insert t).find? name = c.find? name := by
  unfold find? insert
  rw [List.find?_cons_of_neg (by simpa using h), List.find?_filter]
  congr 1
  funext other
  by_cases hother : other.name = name
  · simp [hother, Ne.symm h]
  · simp [hother]

/-- What was there under a name stays there if no theme with that name is put in. -/
theorem find?_insertAll_of_ne (h : ∀ t ∈ ts, t.name ≠ name) :
    (c.insertAll ts).find? name = c.find? name := by
  induction ts generalizing c with
  | nil => rfl
  | cons t rest ih =>
    obtain ⟨ht, hrest⟩ := List.forall_mem_cons.1 h
    show ((c.insert t).insertAll rest).find? name = _
    rw [ih hrest, find?_insert_of_ne ht]

/-- **The last theme with a name** that is put in is the one that is found. -/
theorem find?_insertAll_last (c : ThemeCollection) (front : List Theme) {behind : List Theme}
    (h : ∀ later ∈ behind, later.name ≠ t.name) :
    (c.insertAll (front ++ t :: behind)).find? t.name = some t := by
  rw [insertAll_append]
  show (((c.insertAll front).insert t).insertAll behind).find? t.name = some t
  rw [find?_insertAll_of_ne h, find?_insert_self]

/-! ## Names -/

/-- Each theme is found by its own name, and there is one by the name of the built-in theme. -/
structure Named (c : ThemeCollection) : Prop where
  differ : (c.themes.map (·.name)).Nodup
  default : ∃ t, c.find? "default" = some t

/-- The themes that are built in have different names. -/
theorem named_builtin : builtin.Named where
  differ := by
    rw [builtin, List.map_cons, List.map_nil]
    exact List.pairwise_singleton _ _
  default := ⟨Theme.builtin, rfl⟩

/-- Names stay different when a theme is inserted. -/
theorem Named.insert (h : c.Named) (t : Theme) : (c.insert t).Named where
  differ := by
    show (t.name :: (c.themes.filter fun other => decide (other.name ≠ t.name)).map (·.name)).Nodup
    refine List.nodup_cons.2 ⟨?_, h.differ.sublist (List.filter_sublist.map _)⟩
    intro hmem
    obtain ⟨other, hother, heq⟩ := List.mem_map.1 hmem
    exact absurd heq (by simpa using (List.mem_filter.1 hother).2)
  default := by
    by_cases hname : t.name = "default"
    · exact ⟨t, hname ▸ c.find?_insert_self t⟩
    · rw [find?_insert_of_ne hname]
      exact h.default

/-- They stay different when several themes are. -/
theorem Named.insertAll (h : c.Named) (ts : List Theme) : (c.insertAll ts).Named := by
  induction ts generalizing c with
  | nil => exact h
  | cons t rest ih => exact ih (h.insert t)

/-- The theme under a name is the one that has it. -/
theorem Named.find?_eq_some_iff (h : c.Named) :
    c.find? name = some t ↔ t ∈ c.themes ∧ t.name = name := by
  constructor
  · intro hfind
    exact ⟨List.mem_of_find?_eq_some hfind, by simpa using List.find?_some hfind⟩
  · rintro ⟨hmem, rfl⟩
    obtain ⟨front, behind, hthemes⟩ := List.append_of_mem hmem
    have hdiffer := h.differ
    rw [hthemes, List.map_append, List.map_cons, List.nodup_append] at hdiffer
    rw [find?, List.find?_eq_some_iff_append]
    refine ⟨by simp, front, behind, hthemes, fun other hother => ?_⟩
    have hne := hdiffer.2.2 other.name (List.mem_map_of_mem hother) t.name List.mem_cons_self
    simpa using hne

end ThemeCollection

/-! ## Loading -/

namespace LoadedThemes

variable {l l' l'' : LoadedThemes} {ts ts' : List Theme}

/-- What loading came to when some more themes were put in. -/
structure Grows (l : LoadedThemes) (ts : List Theme) (l' : LoadedThemes) : Prop where
  collection : l'.collection = l.collection.insertAll ts
  count : l'.count = l.count + ts.length

/-- Warnings add no themes. -/
theorem Grows.refl (l : LoadedThemes) (warnings : List Warning) :
    l.Grows [] { l with warnings := warnings } := ⟨rfl, rfl⟩

/-- What grows in two parts grows by both of them. -/
theorem Grows.trans (h : l.Grows ts l') (h' : l'.Grows ts' l'') : l.Grows (ts ++ ts') l'' where
  collection := by rw [h'.collection, h.collection, ThemeCollection.insertAll_append]
  count := by
    rw [h'.count, h.count, List.length_append]
    omega

/-- A theme is put in and counted, and a file that holds none changes nothing. -/
theorem addResult_grows (l : LoadedThemes) (path : String)
    (result : Except ThemeError Theme × List Warning) :
    l.Grows result.1.toOption.toList (l.addResult path result) := by
  obtain ⟨t | e, warnings⟩ := result
  · exact .refl l _
  · exact ⟨rfl, rfl⟩

/-- The themes in files are inserted in the order of the files. -/
theorem addFiles_grows (files : FileSource Id) (l : LoadedThemes) (paths : List String) :
    l.Grows (paths.filterMap (Theme.inFile? files)) (l.addFiles files paths) := by
  induction paths generalizing l with
  | nil => exact .refl l l.warnings
  | cons path rest ih =>
    have hstep := l.addResult_grows path (Id.run (Theme.load files path))
    have hlist : (path :: rest).filterMap (Theme.inFile? files) =
        (Theme.inFile? files path).toList ++ rest.filterMap (Theme.inFile? files) := by
      cases hfile : Theme.inFile? files path with
      | none => simp [hfile]
      | some t => simp [hfile]
    rw [hlist]
    exact hstep.trans (ih _)

/-- **Loading directories** puts in the themes that the listed files hold, in their order. -/
theorem addDirectories_grows (files : FileSource Id) (l : LoadedThemes)
    (directories : List String) :
    l.Grows ((directories.map (files.listed Theme.isThemeFile)).flatten.filterMap
      (Theme.inFile? files)) (addDirectories files l directories) := by
  induction directories generalizing l with
  | nil => exact .refl l l.warnings
  | cons directory rest ih =>
    rw [List.map_cons, List.flatten_cons, List.filterMap_append]
    unfold FileSource.listed addDirectories
    cases files.filesIn Theme.isThemeFile directory with
    | error fault => exact (Grows.refl l _).trans (ih _)
    | ok paths => exact (l.addFiles_grows files paths).trans (ih _)

end LoadedThemes

/-! ## The order in which files are given -/

section Order

variable {files files' : FileSource Id}

/-- Loading a theme does not depend on the order of listings. -/
theorem Theme.load_eq (h : files.SameUpToOrder files') (path : String) :
    Theme.load files' path = Theme.load files path := by
  unfold Theme.load
  rw [h.read]

/-- Neither does loading several of them. -/
theorem LoadedThemes.addFiles_eq (h : files.SameUpToOrder files') (l : LoadedThemes)
    (paths : List String) : l.addFiles files' paths = l.addFiles files paths := by
  induction paths generalizing l with
  | nil => rfl
  | cons path rest ih =>
    rw [addFiles, addFiles, Theme.load_eq h]
    exact ih _

/-- Neither does loading those in some directories. -/
theorem LoadedThemes.addDirectories_eq (h : files.SameUpToOrder files') (l : LoadedThemes)
    (directories : List String) :
    addDirectories files' l directories = addDirectories files l directories := by
  induction directories generalizing l with
  | nil => rfl
  | cons directory rest ih =>
    rw [addDirectories, addDirectories, h.filesIn_eq]
    cases files.filesIn Theme.isThemeFile directory with
    | error fault => exact ih _
    | ok paths =>
      show addDirectories files' (l.addFiles files' paths) rest =
        addDirectories files (l.addFiles files paths) rest
      rw [l.addFiles_eq h, ih]

end Order

namespace ThemeCollection

/-- A collection into which some themes were put in order: the last one with a name is the one that
is found, and what no theme was put in the place of is there as before. -/
structure TakesIn (c : ThemeCollection) (ts : List Theme) (l : LoadedThemes) : Prop where
  collection : l.collection = c.insertAll ts
  count : l.count = ts.length
  last : ∀ front t behind, ts = front ++ t :: behind → (∀ later ∈ behind, later.name ≠ t.name) →
    l.collection.find? t.name = some t
  kept : ∀ name, (∀ t ∈ ts, t.name ≠ name) → l.collection.find? name = c.find? name

/-- **Directories are loaded** theme by theme. -/
theorem takesIn_loadDirectories (c : ThemeCollection) (files : FileSource Id)
    (directories : List String) :
    c.TakesIn ((directories.map (files.listed Theme.isThemeFile)).flatten.filterMap
      (Theme.inFile? files)) (Id.run (c.loadDirectories files directories)) := by
  have hgrows := LoadedThemes.addDirectories_grows files { collection := c } directories
  have hcollection : (Id.run (c.loadDirectories files directories)).collection = c.insertAll _ :=
    hgrows.collection
  refine ⟨hcollection, hgrows.count.trans (Nat.zero_add _), ?_, ?_⟩
  · intro front t behind hts hbehind
    rw [hcollection, hts]
    exact find?_insertAll_last c front hbehind
  · intro name hname
    rw [hcollection]
    exact find?_insertAll_of_ne hname

/-- The collections that come of the built-in one by putting themes in and loading directories. -/
inductive Reachable : ThemeCollection → Prop
  | builtin : Reachable builtin
  | insert {c : ThemeCollection} (t : Theme) (h : Reachable c) : Reachable (c.insert t)
  | loaded {c : ThemeCollection} (files : FileSource Id) (directories : List String)
      (h : Reachable c) : Reachable (Id.run (c.loadDirectories files directories)).collection

/-- **Names are kept**, whatever is put in or loaded. -/
theorem Reachable.named {c : ThemeCollection} (h : c.Reachable) : c.Named := by
  induction h with
  | builtin => exact named_builtin
  | insert t _ ih => exact ih.insert t
  | @loaded c files directories _ ih =>
    have hgrows := LoadedThemes.addDirectories_grows files { collection := c } directories
    show (LoadedThemes.addDirectories files { collection := c } directories).collection.Named
    rw [hgrows.collection]
    exact ih.insertAll _

end ThemeCollection

end ScopePaint
