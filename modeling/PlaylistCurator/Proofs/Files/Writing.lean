import PlaylistCurator.Files.Tree

/-!
# Writing to a file

Writing to a path changes the text of one file and of no other, and afterwards this text is read
from the same path, also if the file was not there before.

* `FileTree.exists_file_of_write`: what a write changes, and that it changes nothing else;
* `FileTree.read_write`: what was written is read;
* `FileTree.exists_write_of_read`: a file that can be read can be written;
* `FileTree.write_write`: writing the same text again changes nothing.
-/

namespace PlaylistCurator.FileTree

variable {tree written : FileTree} {location other : List String} {path text : String}

/-! ## The files -/

theorem lookup_putText_of_ne (hne : other ≠ location) (text : String)
    (files : List (List String × String)) :
    (putText location text files).lookup other = files.lookup other := by
  have hother : (other == location) = false := by simpa using hne
  induction files with
  | nil => simp [putText, List.lookup_cons, hother]
  | cons file rest ih =>
    obtain ⟨first, firstText⟩ := file
    rw [putText]
    split
    · rename_i h
      obtain rfl : first = location := h
      simp [List.lookup_cons, hother]
    · rw [List.lookup_cons, List.lookup_cons, ih]

/-- Putting the same text again at a location changes nothing. -/
theorem putText_putText (location : List String) (text : String)
    (files : List (List String × String)) :
    putText location text (putText location text files) = putText location text files := by
  induction files with
  | nil => simp [putText]
  | cons file rest ih =>
    by_cases hfile : file.1 = location
    · simp [putText, hfile]
    · simp [putText, hfile, ih]

/-- The locations of files, with one more if it is a new one. -/
theorem any_putText (test : List String → Bool) (location : List String) (text : String)
    (files : List (List String × String)) :
    ((putText location text files).any fun file => test file.1) =
      ((files.any fun file => test file.1) || test location) := by
  induction files with
  | nil => simp [putText]
  | cons file rest ih =>
    by_cases hfile : file.1 = location
    · simp only [putText, hfile, ↓reduceIte, List.any_cons]
      cases test location <;> simp
    · simp only [putText, hfile, ↓reduceIte, List.any_cons, ih, Bool.or_assoc]

/-! ## Paths -/

/-- The tree with a text at a location. -/
def put (tree : FileTree) (location : List String) (text : String) : FileTree :=
  { tree with files := putText location text tree.files }

/-- A file makes directories of the locations around it, but not of its own. -/
theorem isDirectory_put (tree : FileTree) (location other : List String) (text : String) :
    (tree.put location text).isDirectory other =
      (tree.isDirectory other || (other.isPrefixOf location && other != location)) := by
  simp only [isDirectory, put,
    any_putText (fun place => other.isPrefixOf place && other != place), Bool.or_assoc]

/-- What a path leads to is a location at which a text can be put. -/
def Place.Leads (place : Place) (location : List String) : Prop :=
  place = .file location ∨ place = .free location

/-- The way to a file stays open when the file is written. -/
theorem walk_put {parts directory : List String} (text : String)
    (h : Place.Leads (tree.walk directory parts) location) :
    (tree.put location text).walk directory parts = .file location := by
  induction parts generalizing directory with
  | nil => rcases h with h | h <;> cases h
  | cons part rest ih =>
    rw [walk] at h ⊢
    split
    · rename_i hstay
      rw [if_pos hstay] at h
      exact ih h
    · rename_i hstay
      rw [if_neg hstay] at h
      split
      · rename_i hup
        rw [if_pos hup] at h
        exact ih h
      · rename_i hup
        rw [if_neg hup] at h
        by_cases hdirectory : tree.isDirectory (directory ++ [part]) = true
        · -- Directories on the way stay directories.
          simp only [hdirectory, ↓reduceIte] at h
          simp only [isDirectory_put, hdirectory, Bool.true_or, ↓reduceIte]
          exact ih h
        · -- This must be the last part of the path, and it leads to the location itself.
          simp only [hdirectory, Bool.false_eq_true, ↓reduceIte] at h
          have hlast : rest.isEmpty = true ∧ directory ++ [part] = location := by
            revert h
            unfold Place.Leads
            cases hempty : rest.isEmpty <;>
              cases htext : (tree.text? (directory ++ [part])).isSome <;>
              cases hadmits : tree.admits directory part <;>
              simp
          obtain ⟨hempty, rfl⟩ := hlast
          have htext : ((tree.put (directory ++ [part]) text).text? (directory ++ [part])).isSome =
              true := by
            rw [text?, put, lookup_putText]
            rfl
          simp [isDirectory_put, hdirectory, hempty, htext]

theorem locate_put (text : String) (h : Place.Leads (tree.locate path) location) :
    (tree.put location text).locate path = .file location := by
  unfold locate at h ⊢
  split
  · rename_i hpath
    rw [if_pos hpath] at h
    rcases h with h | h <;> cases h
  · rename_i hpath
    rw [if_neg hpath] at h
    exact walk_put text h

/-! ## Writing and reading -/

/-- Writing puts the text at the location to which the path leads. -/
theorem exists_put_of_write (h : tree.write path text = some written) :
    ∃ location, Place.Leads (tree.locate path) location ∧ written = tree.put location text := by
  unfold write at h
  split at h
  · rename_i location hlocate
    exact ⟨location, .inl hlocate, (Option.some.inj h).symm⟩
  · rename_i location hlocate
    exact ⟨location, .inr hlocate, (Option.some.inj h).symm⟩
  · cases h

/-- A write changes the text of the file to which the path leads, and no other file. -/
theorem exists_file_of_write (h : tree.write path text = some written) :
    ∃ location, Place.Leads (tree.locate path) location ∧ written.locate path = .file location ∧
      written.text? location = some text ∧
      ∀ other, other ≠ location → written.text? other = tree.text? other := by
  obtain ⟨location, hleads, rfl⟩ := exists_put_of_write h
  refine ⟨location, hleads, locate_put text hleads, lookup_putText location text tree.files, ?_⟩
  intro other hother
  exact lookup_putText_of_ne hother text tree.files

/-- A path to a file that can be read leads to nothing else. -/
theorem Place.Leads.eq_file_of_read {earlier : String}
    (h : Place.Leads (tree.locate path) location) (hread : tree.read path = some earlier) :
    tree.locate path = .file location := by
  rcases h with h | h
  · exact h
  · rw [read, h] at hread
    cases hread

/-- What was written to a file is read from it. -/
theorem read_write (h : tree.write path text = some written) : written.read path = some text := by
  obtain ⟨location, -, hlocate, htext, -⟩ := exists_file_of_write h
  rw [read, hlocate]
  exact htext

/-- A file that can be read can be written. -/
theorem exists_write_of_read {earlier : String} (h : tree.read path = some earlier)
    (text : String) : ∃ written, tree.write path text = some written := by
  unfold read at h
  split at h
  · rename_i location hlocate
    exact ⟨_, by rw [write, hlocate]⟩
  · cases h

/-- Writing the same text again changes nothing. -/
theorem write_write (h : tree.write path text = some written) :
    written.write path text = some written := by
  obtain ⟨location, hleads, rfl⟩ := exists_put_of_write h
  rw [write, locate_put text hleads]
  simp only [put, putText_putText]

end PlaylistCurator.FileTree
