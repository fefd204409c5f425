import Mathlib.Data.List.Forall2
import ScopePaint.Files.Source
import ScopePaint.Proofs.Outcome

/-!
# What directories list

What is loaded from a directory are the wanted files in it, in the order of their paths, and nothing
if the directory cannot be read (`FileSource.Lists`). There is one such list of paths for each
directory (`FileSource.lists_listed`, `FileSource.Lists.unique`), and as it is put in order, the order
in which the names in a directory are given makes no difference
(`FileSource.SameUpToOrder.filesIn_eq`).

The source of files answers at once here, so that it gives the same answers all the time.
-/

set_option autoImplicit false

namespace ScopePaint

namespace FileSource

variable {files files' : FileSource Id} {isWanted : String → Bool} {directory : String}

/-- The paths of the wanted files directly in a directory. A directory that cannot be read has
none. -/
inductive Lists (files : FileSource Id) (isWanted : String → Bool) (directory : String) :
    List String → Prop
  | unreadable {fault : FileFault} (hnames : files.names directory = .error fault) :
      Lists files isWanted directory []
  | inOrder {names paths : List String} (hnames : files.names directory = .ok names)
      (hperm : paths.Perm ((names.map (Path.join directory)).filter fun path =>
        isWanted path && files.isFile path))
      (hsorted : paths.Pairwise (· ≤ ·)) : Lists files isWanted directory paths

/-- The paths of the wanted files that are found in a directory. -/
def listed (files : FileSource Id) (isWanted : String → Bool) (directory : String) : List String :=
  match files.filesIn isWanted directory with
  | .ok paths => paths
  | .error _ => []

/-- Two sources differ at most in the order in which they give the names in directories. -/
structure SameUpToOrder (files files' : FileSource Id) : Prop where
  read : files'.read = files.read
  isFile : files'.isFile = files.isFile
  names : ∀ directory, SameOutcome List.Perm (files.names directory) (files'.names directory)

/-! ## Putting paths in order -/

/-- Paths are sorted in ascending order. -/
theorem pairwise_mergeSort_paths (paths : List String) :
    (paths.mergeSort fun a b => decide (a ≤ b)).Pairwise (· ≤ ·) := by
  refine (List.pairwise_mergeSort (fun a b c hab hbc => ?_) (fun a b => ?_) paths).imp
    fun {a b} hab => of_decide_eq_true hab
  · exact decide_eq_true (String.le_trans (of_decide_eq_true hab) (of_decide_eq_true hbc))
  · simpa using String.le_total a b

/-- The same paths in order are the same list. -/
theorem eq_of_perm_of_pairwise {paths paths' : List String} (h : paths.Pairwise (· ≤ ·))
    (h' : paths'.Pairwise (· ≤ ·)) (hperm : paths.Perm paths') : paths = paths' :=
  List.Perm.eq_of_pairwise (fun _ _ _ _ hab hba => String.le_antisymm hab hba) h h' hperm

/-! ## The files in a directory -/

/-- Only the paths of files are kept. -/
theorem onlyFiles_eq (files : FileSource Id) (paths : List String) :
    files.onlyFiles paths = paths.filter files.isFile := by
  induction paths with
  | nil => rfl
  | cons path rest ih =>
    rw [List.filter_cons, ← ih]
    rfl

/-- What is found in a directory: the wanted files in order, or why it cannot be read. -/
theorem filesIn_eq (files : FileSource Id) (isWanted : String → Bool) (directory : String) :
    files.filesIn isWanted directory =
      (Except.map (fun names => (((names.map (Path.join directory)).filter fun path =>
        isWanted path && files.isFile path).mergeSort fun a b => decide (a ≤ b)))
        (files.names directory) : Except FileFault (List String)) := by
  show (match files.names directory with
    | .error fault => .error fault
    | .ok names => .ok ((files.onlyFiles ((names.map (Path.join directory)).filter isWanted)).mergeSort
        fun a b => decide (a ≤ b)) : Except FileFault (List String)) = _
  cases files.names directory with
  | error fault => rfl
  | ok names =>
    show Except.ok _ = Except.ok _
    rw [onlyFiles_eq, List.filter_filter]
    simp only [Bool.and_comm]

/-- **What is found in a directory** is what it lists. -/
theorem lists_listed (files : FileSource Id) (isWanted : String → Bool) (directory : String) :
    files.Lists isWanted directory (files.listed isWanted directory) := by
  unfold listed
  rw [filesIn_eq]
  cases hnames : files.names directory with
  | error fault => exact .unreadable hnames
  | ok names =>
    exact .inOrder hnames (List.mergeSort_perm _ _) (pairwise_mergeSort_paths _)

/-- A directory lists one list of paths only. -/
theorem Lists.unique {paths paths' : List String} (h : files.Lists isWanted directory paths)
    (h' : files.Lists isWanted directory paths') : paths = paths' := by
  cases h with
  | unreadable hnames =>
    cases h' with
    | unreadable => rfl
    | inOrder hnames' => exact absurd (hnames.symm.trans hnames') (by simp)
  | inOrder hnames hperm hsorted =>
    cases h' with
    | unreadable hnames' => exact absurd (hnames.symm.trans hnames') (by simp)
    | inOrder hnames' hperm' hsorted' =>
      obtain rfl := Except.ok.inj (hnames.symm.trans hnames')
      exact eq_of_perm_of_pairwise hsorted hsorted' (hperm.trans hperm'.symm)

/-- What is listed of each directory is a listing of it. -/
theorem forall₂_lists_listed (files : FileSource Id) (isWanted : String → Bool)
    (directories : List String) :
    List.Forall₂ (files.Lists isWanted) directories (directories.map (files.listed isWanted)) := by
  rw [List.forall₂_map_right_iff, List.forall₂_same]
  exact fun directory _ => files.lists_listed isWanted directory

/-- **The order in which names are given** makes no difference to what is found. -/
theorem SameUpToOrder.filesIn_eq (h : files.SameUpToOrder files') (isWanted : String → Bool)
    (directory : String) :
    files'.filesIn isWanted directory = files.filesIn isWanted directory := by
  rw [FileSource.filesIn_eq, FileSource.filesIn_eq, h.isFile]
  generalize hx : files.names directory = x
  generalize hy : files'.names directory = y
  have hnames : SameOutcome List.Perm x y := hx ▸ hy ▸ h.names directory
  cases hnames with
  | error fault => rfl
  | ok hperm =>
    refine congrArg Except.ok (eq_of_perm_of_pairwise (pairwise_mergeSort_paths _)
      (pairwise_mergeSort_paths _) ?_)
    have hpaths := (hperm.map (Path.join directory)).filter fun path =>
      isWanted path && files.isFile path
    exact ((List.mergeSort_perm _ _).trans hpaths.symm).trans (List.mergeSort_perm _ _).symm

end FileSource

end ScopePaint
