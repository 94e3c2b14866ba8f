import PlaylistCurator.Files.Task
import PlaylistCurator.Library

/-!
# Library files

Opening and saving the document in which a library is kept.
-/

namespace PlaylistCurator.Library

/-- The library of the file at a path. -/
def load (path : String) : FileTask Library := do
  match parse (← FileTask.readText path (.readLibrary path)) with
  | some library => return library
  | none => .failWith .invalidLibrary [.parseLibrary path]

/-- Writes a library to the file at a path. -/
def save (path : String) (library : Library) : FileTask Unit :=
  .write path library.snapshot.render (FileTask.require (.writeLibrary path))

end PlaylistCurator.Library
