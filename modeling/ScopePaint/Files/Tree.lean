import ScopePaint.Files.Source

/-!
Trees of files in memory.

A path is followed part by part. Two dots lead to the directory above, out of a file no part leads
on, and paths that do not begin at the root begin in a working directory.
-/

set_option autoImplicit false

namespace ScopePaint

/-- A file with its bytes, or a directory. -/
inductive FileTree where
  | file (bytes : List UInt8)
  | directory (entries : List (String × FileTree))

namespace FileTree

/-- Put an entry into a directory, or in the place of the entry with its name. -/
def putEntry (name : String) (tree : FileTree) : List (String × FileTree) →
    List (String × FileTree)
  | [] => [(name, tree)]
  | entry :: rest =>
    if entry.1 = name then (name, tree) :: rest else entry :: putEntry name tree rest

/-- The entries of a directory. -/
def entries : FileTree → List (String × FileTree)
  | file _ => []
  | directory entries => entries

/-- Put a file into a tree, with the directories on the way to it. -/
def insert (bytes : List UInt8) : List String → FileTree → FileTree
  | [], _ => file bytes
  | name :: rest, tree =>
    let below := (tree.entries.lookup name).getD (directory [])
    directory (putEntry name (insert bytes rest below) tree.entries)

/-- What the parts of a path lead to from a place in a tree, with the directories above it. -/
def descend : List FileTree → FileTree → List String → Except FileFault FileTree
  | _, tree, [] => .ok tree
  | _, file _, _ :: _ => .error .notADirectory
  | above, directory entries, part :: rest =>
    if part = "" ∨ part = "." then descend above (directory entries) rest
    else if part = ".." then
      match above with
      | [] => descend [] (directory entries) rest
      | parent :: above => descend above parent rest
    else
      match entries.lookup part with
      | some tree => descend (directory entries :: above) tree rest
      | none => .error .notFound

/-- What a path leads to, in a tree with the given working directory. -/
def follow (root : FileTree) (working : List String) (path : String) :
    Except FileFault FileTree :=
  if path = "" then .error .notFound
  else if Path.isAbsolute path then descend [] root (Text.split '/' path)
  else descend [] root (working ++ Text.split '/' path)

/-- A tree as a source of files. -/
def source (root : FileTree) (working : List String) : FileSource Id where
  read path :=
    match root.follow working path with
    | .ok (file bytes) => .ok bytes
    | .ok (directory _) => .error .isADirectory
    | .error fault => .error fault
  names path :=
    match root.follow working path with
    | .ok (file _) => .error .notADirectory
    | .ok (directory entries) => .ok (entries.map (·.1))
    | .error fault => .error fault
  isFile path :=
    match root.follow working path with
    | .ok (file _) => true
    | _ => false
  isPresent path := (root.follow working path).toOption.isSome

end FileTree

end ScopePaint
