import PlaylistCurator.Failure

/-!
# Tasks on files

What a program wants of the file system, as data: it asks for an operation, and how it goes on
depends on what comes of it. The same task can be carried out on the files of a machine or on a file
tree that is a value.

* `FileTask.attempt`: a task as one that does not fail but says so.
-/

namespace PlaylistCurator

/-- A task on files that is to yield a result. -/
inductive FileTask (α : Type)
  /-- The task is finished. -/
  | done (result : α)
  /-- The task has failed. -/
  | fail (failure : Failure)
  /-- Asks whether there is a file or directory at a path. -/
  | probe (path : String) (next : Bool → FileTask α)
  /-- Reads a file's text, of which nothing comes if that fails. -/
  | read (path : String) (next : Option String → FileTask α)
  /-- Makes a directory, with those around it, and says whether it is there now. -/
  | makeDirectory (path : String) (next : Bool → FileTask α)
  /-- Replaces a file's text and says whether that worked. -/
  | write (path text : String) (next : Bool → FileTask α)

namespace FileTask

variable {α β : Type}

/-- One task after another, which may use its result. -/
def bind : FileTask α → (α → FileTask β) → FileTask β
  | .done result, following => following result
  | .fail failure, _ => .fail failure
  | .probe path next, following => .probe path fun answer => (next answer).bind following
  | .read path next, following => .read path fun answer => (next answer).bind following
  | .makeDirectory path next, following =>
    .makeDirectory path fun answer => (next answer).bind following
  | .write path text next, following => .write path text fun answer => (next answer).bind following

instance : Monad FileTask where
  pure := .done
  bind := bind

/-- The task as one that yields its result or its failure. -/
def attempt : FileTask α → FileTask (Except Failure α)
  | .done result => .done (.ok result)
  | .fail failure => .done (.error failure)
  | .probe path next => .probe path fun answer => (next answer).attempt
  | .read path next => .read path fun answer => (next answer).attempt
  | .makeDirectory path next => .makeDirectory path fun answer => (next answer).attempt
  | .write path text next => .write path text fun answer => (next answer).attempt

/-- The task that fails at once. -/
def failWith (cause : Cause) (during : List Activity) : FileTask α :=
  .fail { cause, during }

/-- Reads a file as part of an activity, whose failure it is if that does not work. -/
def readText (path : String) (during : Activity) : FileTask String :=
  .read path fun
    | some text => .done text
    | none => failWith .fileSystem [during]

/-- Requires what is done to a file as part of an activity to work. -/
def require (during : Activity) : Bool → FileTask Unit
  | true => .done ()
  | false => failWith .fileSystem [during]

@[simp]
theorem pure_eq (result : α) : (pure result : FileTask α) = .done result := rfl

@[simp]
theorem done_bind (result : α) (following : α → FileTask β) :
    (FileTask.done result >>= following) = following result := rfl

@[simp]
theorem fail_bind (failure : Failure) (following : α → FileTask β) :
    (FileTask.fail failure >>= following) = .fail failure := rfl

end FileTask

namespace Path

/-- Whether a path begins at the root. -/
def isAbsolute (path : String) : Bool :=
  path.toList.head? == some '/'

/-- The path of an entry in a directory. -/
def join (directory entry : String) : String :=
  if isAbsolute entry || directory.isEmpty then entry
  else if directory.toList.getLast? == some '/' then directory ++ entry
  else directory ++ "/" ++ entry

/-- The parts of a path between its slashes. -/
def parts (path : String) : List String :=
  (path.toList.splitOn '/').map String.ofList

/-- Whether a directory can have an entry of a name: it may have at most 255 bytes. -/
def isName (name : String) : Bool :=
  name.utf8ByteSize ≤ 255

/-- Whether a path can be used: it may have at most 4095 bytes and no null character. -/
def isWellFormed (path : String) : Bool :=
  path.utf8ByteSize ≤ 4095 && !path.toList.contains '\x00'

example : isName (String.ofList (List.replicate 127 'é')) = true := by decide +kernel
example : isName (String.ofList (List.replicate 128 'é')) = false := by decide +kernel

end Path

end PlaylistCurator
