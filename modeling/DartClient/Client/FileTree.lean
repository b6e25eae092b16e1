/-!
# File trees

A folder with everything below it, and what becomes of it when files are written and folders are
cleared. Writing a file creates the folders on the way to it. It fails where a file stands in the
place of a folder, or a folder in the place of the file; what has been created by then stays.

Paths are texts with slashes, and lead from the folder to what stands below it. The name `.` means
the same folder, and `..` the one above; what stands before it on the path has to be a folder all
the same. Neither can be removed by that name. A path that starts with a slash or climbs above the
folder leads out of the tree: nothing is found there, and what is written there is not seen.

## Main definitions

* `FileTree`: the tree, with `FileTree.read?`, `FileTree.write` and `FileTree.clear`.
* `FileAction`, `FileTree.perform`: a list of changes, which ends at the first that fails.
* `FileTree.files`, `FileTree.emptyFolders`: the contents.
-/

namespace DartClient

/-- What stands at a path. -/
inductive FileEntry where
  /-- A file with its text. -/
  | file (text : String)
  /-- A folder. -/
  | folder
  deriving DecidableEq, Repr

/-- A folder with everything below it. -/
structure FileTree where
  /-- What there is, each path once. The path without names is that of the folder itself, which is
  missing after it has been removed. -/
  entries : List (List String × FileEntry)

/-- The greatest number of bytes in a name. -/
def maxNameLength : Nat := 255

/-- The greatest number of bytes in a path: 4095, less those that lead to the folder. -/
def maxPathLength : Nat := 4079

/-- Whether a name may be given to a file or folder. -/
def isFileName (name : String) : Bool := name.utf8ByteSize ≤ maxNameLength

/-- Whether a text can be a path. -/
def isPath (path : String) : Bool :=
  path.utf8ByteSize ≤ maxPathLength && !path.toList.contains '\x00'

/-- Whether a part of a path leads no further. -/
def isIdle (part : String) : Bool := part == "" || part == "."

/-- The names on a path, without those that change nothing. -/
def pathNames (path : String) : List String := (path.splitOn "/").filter (!isIdle ·)

/-- Whether names lead above the place where they start, which is `depth` below the folder. -/
def climbsOut (depth : Nat) : List String → Bool
  | [] => false
  | name :: names =>
    if name = ".." then depth = 0 || climbsOut (depth - 1) names else climbsOut (depth + 1) names

/-- Whether a path leads out of the tree. -/
def leavesTree (path : String) : Bool := path.startsWith "/" || climbsOut 0 (pathNames path)

/-- The path of the folder that holds what a path ends with; a path without names has none. -/
def parentPath? (path : String) : Option String :=
  match (path.splitOn "/").reverse.dropWhile isIdle with
  | [] => none
  | _ :: parts => some ("/".intercalate (parts.dropWhile isIdle).reverse)

/-- The name at the end of a path; it is empty behind a slash. -/
def lastName (path : String) : String := (path.splitOn "/").getLast?.getD ""

/-- Whether a path can only mean a folder. -/
def meansFolder (path : String) : Bool := ["", ".", ".."].contains (lastName path)

/-- A path as seen from a folder. -/
def joinPath (folder path : String) : String :=
  if folder = "" || path.startsWith "/" then path else folder ++ "/" ++ path

namespace FileTree

/-- An empty folder. -/
def empty : FileTree := ⟨[([], .folder)]⟩

/-- What stands at a path. -/
def entry? (tree : FileTree) (names : List String) : Option FileEntry := tree.entries.lookup names

/-- Where a name leads from a folder. -/
def step (folder : List String) (name : String) : List String :=
  if name = ".." then folder.dropLast else folder ++ [name]

/-- Where a path leads from a folder, if all that is passed on the way are folders. -/
def locate? (tree : FileTree) (folder : List String) : List String → Option (List String)
  | [] => some folder
  | name :: names =>
    if tree.entry? folder = some .folder then tree.locate? (step folder name) names else none

/-- What a path leads to. -/
def find? (tree : FileTree) (path : String) : Option (List String × FileEntry) :=
  if isPath path && !leavesTree path then do
    let location ← tree.locate? [] (pathNames path)
    return (location, ← tree.entry? location)
  else none

/-- Puts something at a path. -/
def put (tree : FileTree) (names : List String) (entry : FileEntry) : FileTree :=
  ⟨tree.entries.filter (fun e => e.1 != names) ++ [(names, entry)]⟩

/-- Removes what stands below a path. -/
def removeBelow (tree : FileTree) (names : List String) : FileTree :=
  ⟨tree.entries.filter fun e => !(names.isPrefixOf e.1 && e.1 != names)⟩

/-- Removes what stands at a path. -/
def remove (tree : FileTree) (names : List String) : FileTree :=
  ⟨tree.entries.filter fun e => e.1 != names⟩

/-- Creates a folder in one that exists, unless it exists already. -/
def createFolder? (tree : FileTree) (names : List String) : Option FileTree :=
  match tree.entry? names with
  | some .folder => some tree
  | some (.file _) => none
  | none => if isFileName (names.getLast?.getD "") then some (tree.put names .folder) else none

/-- Creates a folder and those on a path from there, and gives where the path leads if they exist
then. -/
def createFolders (tree : FileTree) (folder : List String) :
    List String → FileTree × Option (List String)
  | [] =>
    match tree.createFolder? folder with
    | some tree => (tree, some folder)
    | none => (tree, none)
  | name :: names =>
    match tree.createFolder? folder with
    | some tree => tree.createFolders (step folder name) names
    | none => (tree, none)

/-- Writes a file; tells whether it could be written. -/
def write (tree : FileTree) (path text : String) : FileTree × Bool :=
  match (parentPath? path).filter isPath with
  | none => (tree, false)
  | some parent =>
    if leavesTree path then (tree, isPath path && !meansFolder path)
    else match tree.createFolders [] (pathNames parent) with
    | (tree, none) => (tree, false)
    | (tree, some folder) =>
      let own := folder ++ [lastName path]
      if !isPath path || meansFolder path || !isFileName (lastName path)
          || tree.entry? own = some .folder then (tree, false)
      else (tree.put own (.file text), true)

/-- Whether a path leads to a folder. -/
def hasFolder (tree : FileTree) (names : List String) : Bool :=
  (tree.locate? [] names).bind tree.entry? = some .folder

/-- Removes a folder, if there is one; tells whether nothing is in the way. First goes all that
stands in the folder. If the path leads to it no longer then, the empty folder stays. -/
def clear (tree : FileTree) (path : String) : FileTree × Bool :=
  match tree.find? path with
  | some (location, .folder) =>
    let tree := tree.removeBelow location
    let parts := (path.splitOn "/").filter (· != "")
    if !tree.hasFolder (parts.dropLast.filter (· != ".")) then (tree, true)
    else if [".", ".."].contains (parts.getLast?.getD "") then (tree, false)
    else (tree.remove location, true)
  | some (_, .file _) => (tree, meansFolder path)
  | none => (tree, true)

/-- The text of a file. -/
def read? (tree : FileTree) (path : String) : Option String :=
  match tree.find? path with
  | some (_, .file text) => if meansFolder path then none else some text
  | _ => none

/-- The files below a folder, by their paths from there. -/
def files (tree : FileTree) (folder : String) : List (String × String) :=
  let folder := pathNames folder
  tree.entries.filterMap fun
    | (names, .file text) =>
      if folder.isPrefixOf names then some ("/".intercalate (names.drop folder.length), text)
      else none
    | (_, .folder) => none

/-- Whether anything stands below a path. -/
def hasBelow (tree : FileTree) (names : List String) : Bool :=
  tree.entries.any fun e => names.isPrefixOf e.1 && e.1 != names

/-- The folders below a folder that have nothing below them, by their paths from there. -/
def emptyFolders (tree : FileTree) (folder : String) : List String :=
  let folder := pathNames folder
  tree.entries.filterMap fun
    | (names, .folder) =>
      if folder.isPrefixOf names && names != folder && !tree.hasBelow names then
        some ("/".intercalate (names.drop folder.length))
      else none
    | (_, .file _) => none

end FileTree

/-- A change of a file tree. -/
inductive FileAction where
  /-- Removes a folder. -/
  | clear (path : String)
  /-- Writes a file. -/
  | write (path text : String)
  deriving DecidableEq, Repr

namespace FileTree

/-- A file tree after a change; tells whether it could be made. -/
def act (tree : FileTree) : FileAction → FileTree × Bool
  | .clear path => tree.clear path
  | .write path text => tree.write path text

/-- A file tree after a list of changes; tells whether all of them could be made. -/
def perform (tree : FileTree) : List FileAction → FileTree × Bool
  | [] => (tree, true)
  | action :: actions =>
    match tree.act action with
    | (tree, true) => tree.perform actions
    | (tree, false) => (tree, false)

end FileTree

end DartClient
