import PlaylistCurator.Files.Task

/-!
# File trees

The files and directories of a machine as a value. A file or directory is found by its location,
the names on the way to it from the root; paths that are not absolute start at the current
directory. A path that is too long leads nowhere, and nothing is made under a name that is too long
or in a closed directory.

* `FileTree.locate`: what is at a path.
* `FileTask.runOn`: a task carried out on a tree.
-/

namespace PlaylistCurator

/-- The files and directories of a machine. -/
structure FileTree where
  /-- The texts of the files by their locations. -/
  files : List (List String × String)
  /-- The locations of directories, besides those around a file. -/
  directories : List (List String) := []
  /-- The locations of directories in which nothing can be made. -/
  closed : List (List String) := []
  /-- The location of the current directory. -/
  current : List String := []
  deriving DecidableEq, Repr

/-- What is at a path. -/
inductive Place
  /-- The file at a location. -/
  | file (location : List String)
  /-- The directory at a location. -/
  | directory (location : List String)
  /-- Nothing yet, but a file can be made there. -/
  | free (location : List String)
  /-- Nothing, and nothing can be. -/
  | nowhere
  deriving DecidableEq, Repr

namespace FileTree

/-- The text of the file at a location. -/
def text? (tree : FileTree) (location : List String) : Option String :=
  tree.files.lookup location

/-- Whether there is a directory at a location: one that is listed, or one around a listed directory
or a file. -/
def isDirectory (tree : FileTree) (location : List String) : Bool :=
  location.isPrefixOf tree.current || tree.directories.any (location.isPrefixOf ·) ||
    tree.files.any fun file => location.isPrefixOf file.1 && location != file.1

/-- Whether an entry of a name can be made in a directory. -/
def admits (tree : FileTree) (directory : List String) (name : String) : Bool :=
  Path.isName name && !tree.closed.contains directory

/-- What the rest of a path leads to from a directory. -/
def walk (tree : FileTree) (directory : List String) : (parts : List String) → Place
  | [] => .directory directory
  | part :: rest =>
    if part = "" ∨ part = "." then tree.walk directory rest
    else if part = ".." then tree.walk directory.dropLast rest
    else
      let location := directory ++ [part]
      if tree.isDirectory location then tree.walk location rest
      else if !rest.isEmpty then .nowhere
      else if (tree.text? location).isSome then .file location
      else if tree.admits directory part then .free location
      else .nowhere

/-- Where a path begins. -/
def origin (tree : FileTree) (path : String) : List String :=
  if Path.isAbsolute path then [] else tree.current

/-- What is at a path. Nothing is at the empty path or at one that is not well formed. -/
def locate (tree : FileTree) (path : String) : Place :=
  if path.isEmpty || !Path.isWellFormed path then .nowhere
  else tree.walk (tree.origin path) (Path.parts path)

/-- Whether there is a file or directory at a path. -/
def probe (tree : FileTree) (path : String) : Bool :=
  match tree.locate path with
  | .file _ | .directory _ => true
  | .free _ | .nowhere => false

/-- The text of the file at a path. -/
def read (tree : FileTree) (path : String) : Option String :=
  match tree.locate path with
  | .file location => tree.text? location
  | _ => none

/-- The files with another text at a location. -/
def putText (location : List String) (text : String) :
    List (List String × String) → List (List String × String)
  | [] => [(location, text)]
  | file :: rest =>
    if file.1 = location then (location, text) :: rest else file :: putText location text rest

/-- The tree with a text written to the file at a path. -/
def write (tree : FileTree) (path text : String) : Option FileTree :=
  match tree.locate path with
  | .file location | .free location =>
    some { tree with files := putText location text tree.files }
  | _ => none

/-- The tree with the directories that the rest of a path leads through from a directory, up to
where a file is in the way or nothing of the name can be made, and whether that never happens. -/
def makeAll (tree : FileTree) (directory : List String) : (parts : List String) → FileTree × Bool
  | [] => (tree, true)
  | part :: rest =>
    if part = "" ∨ part = "." then tree.makeAll directory rest
    else if part = ".." then tree.makeAll directory.dropLast rest
    else
      let location := directory ++ [part]
      if tree.isDirectory location then tree.makeAll location rest
      else if (tree.text? location).isSome || !tree.admits directory part then (tree, false)
      else
        { tree with directories := location :: tree.directories }.makeAll location rest

/-- The tree with as much of a directory at a path as is possible, and whether it is all of it. -/
def makeDirectory (tree : FileTree) (path : String) : FileTree × Bool :=
  if Path.isWellFormed path then tree.makeAll (tree.origin path) (Path.parts path)
  else (tree, false)

/-- What was written at a location is found there. -/
theorem lookup_putText (location : List String) (text : String)
    (files : List (List String × String)) :
    (putText location text files).lookup location = some text := by
  induction files with
  | nil => simp [putText]
  | cons file rest ih =>
    obtain ⟨other, otherText⟩ := file
    unfold putText
    split
    · simp
    · rename_i h
      have : (location == other) = false := by simpa using fun e => h e.symm
      simp [List.lookup_cons, this, ih]

end FileTree

/-- The result of a task carried out on a tree, and the tree afterwards. -/
def FileTask.runOn {α : Type} : FileTask α → FileTree → Except Failure α × FileTree
  | .done result, tree => (.ok result, tree)
  | .fail failure, tree => (.error failure, tree)
  | .probe path next, tree => (next (tree.probe path)).runOn tree
  | .read path next, tree => (next (tree.read path)).runOn tree
  | .makeDirectory path next, tree =>
    let (made, isThere) := tree.makeDirectory path
    (next isThere).runOn made
  | .write path text next, tree =>
    match tree.write path text with
    | none => (next false).runOn tree
    | some written => (next true).runOn written

/-- One task after another is carried out on the tree that the first one leaves. -/
theorem FileTask.runOn_bind {α β : Type} (task : FileTask α) (following : α → FileTask β)
    (tree : FileTree) :
    (task >>= following).runOn tree =
      match task.runOn tree with
      | (.ok result, left) => (following result).runOn left
      | (.error failure, left) => (.error failure, left) := by
  induction task generalizing tree with
  | done => rfl
  | fail => rfl
  | probe path next ih => exact ih _ tree
  | read path next ih => exact ih _ tree
  | makeDirectory path next ih => exact ih _ _
  | write path text next ih =>
    change (match tree.write path text with
      | none => (next false >>= following).runOn tree
      | some written => (next true >>= following).runOn written) = _
    cases h : tree.write path text <;> simp only [runOn, h] <;> exact ih _ _

end PlaylistCurator
