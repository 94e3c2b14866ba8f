import PlaylistCurator.Library.File
import PlaylistCurator.Proofs.Catalog.SnapshotText
import PlaylistCurator.Proofs.Files.Writing
import PlaylistCurator.Proofs.Library.Answers

/-!
# Saving and opening a library

A library that can come about is what it is after it has been saved and opened again: its snapshot
is read back from the text, and bringing the track counts up to date changes none of them, since
they are right already.

* `runOn_load`: how opening a file goes;
* `parse_render_and_reopen`: snapshots are read back, and so are saved libraries.
-/

namespace PlaylistCurator.Library

variable {library : Library} {tree : FileTree} {path : String}

/-- A library whose track counts are right is made of its own snapshot. -/
theorem IsSynced.snapshot_ofSnapshot (h : library.IsSynced) :
    (ofSnapshot library.snapshot).snapshot = library.snapshot := by
  have hsynced : library.snapshot.playlists.map StoredPlaylist.synced =
      library.snapshot.playlists := (List.map_congr_left h).trans (List.map_id _)
  rw [ofSnapshot, hsynced]

/-- The text of a library gives a library with the same snapshot. -/
theorem IsSynced.exists_parse_render (h : library.IsSynced) :
    ∃ reopened, parse library.snapshot.render = some reopened ∧
      reopened.snapshot = library.snapshot := by
  refine ⟨ofSnapshot library.snapshot, ?_, h.snapshot_ofSnapshot⟩
  rw [parse, Snapshot.parse_render]
  rfl

/-- A library that is parsed can come about. -/
theorem reachable_of_parse {text : String} (h : parse text = some library) :
    library.Reachable := by
  obtain ⟨snapshot, -, rfl⟩ := Option.map_eq_some_iff.1 h
  exact .ofSnapshot snapshot

/-! ## Files -/

/-- How opening a file goes: it changes nothing, and it succeeds if the file can be read and its
text is that of a library. -/
theorem runOn_load (path : String) (tree : FileTree) :
    (load path).runOn tree = match tree.read path with
      | none => (.error ⟨.fileSystem, [.readLibrary path]⟩, tree)
      | some text => match parse text with
        | none => (.error ⟨.invalidLibrary, [.parseLibrary path]⟩, tree)
        | some library => (.ok library, tree) := by
  rw [load, FileTask.runOn_bind]
  simp only [FileTask.readText, FileTask.runOn]
  cases tree.read path with
  | none => rfl
  | some text =>
    simp only [FileTask.runOn]
    cases parse text <;> rfl

theorem exists_text_of_runOn_load {after : FileTree}
    (h : (load path).runOn tree = (.ok library, after)) :
    ∃ text, tree.read path = some text ∧ parse text = some library := by
  rw [runOn_load] at h
  cases hread : tree.read path with
  | none =>
    rw [hread] at h
    cases h
  | some text =>
    cases hparse : parse text with
    | none =>
      simp only [hread, hparse] at h
      cases h
    | some other =>
      simp only [hread, hparse] at h
      cases h
      exact ⟨text, rfl, hparse⟩

theorem runOn_load_of_read {text : String} (hread : tree.read path = some text)
    (hparse : parse text = some library) : (load path).runOn tree = (.ok library, tree) := by
  simp only [runOn_load, hread, hparse]

/-- Saving a library to a path where a file can be written replaces the file's text. -/
theorem runOn_save_of_write {written : FileTree}
    (h : tree.write path library.snapshot.render = some written) :
    (save path library).runOn tree = (.ok (), written) := by
  simp only [save, FileTask.runOn, h, FileTask.require]

/-- Every snapshot is read back from its text. A library that was opened from a file and has carried
out any calls can be saved there, and the file then holds its text; opened again, this is a library
with the same snapshot, and saving that one leaves all files as they are. Refused calls change
nothing, and each new id may be chosen anew, since no two are chosen with the same ids taken. -/
theorem parse_render_and_reopen :
    (∀ snapshot : Snapshot, Snapshot.parse snapshot.render = some snapshot) ∧
      ∀ (path : String) (tree : FileTree) (opened : Library) (newId : IdSource)
        (calls : List Call), (load path).runOn tree = (.ok opened, tree) →
        ∃ saved reopened,
          (save path (opened.replay newId calls)).runOn tree = (.ok (), saved) ∧
            saved.read path = some (opened.replay newId calls).snapshot.render ∧
            (load path).runOn saved = (.ok reopened, saved) ∧
            reopened.snapshot = (opened.replay newId calls).snapshot ∧
            (save path reopened).runOn saved = (.ok (), saved) := by
  refine ⟨Snapshot.parse_render, ?_⟩
  intro path tree opened newId calls hload
  obtain ⟨text, hread, hparse⟩ := exists_text_of_runOn_load hload
  have hsynced := ((reachable_of_parse hparse).replay newId calls).isSynced
  obtain ⟨reopened, hreopened, hsnapshot⟩ := hsynced.exists_parse_render
  -- The file that was read can be written, and what is written is read.
  obtain ⟨saved, hwrite⟩ := FileTree.exists_write_of_read hread
    (opened.replay newId calls).snapshot.render
  have hsaved := FileTree.read_write hwrite
  -- The library that is opened has the same snapshot, so it is saved as the same text.
  have hagain : saved.write path reopened.snapshot.render = some saved := by
    rw [hsnapshot]
    exact FileTree.write_write hwrite
  exact ⟨saved, reopened, runOn_save_of_write hwrite, hsaved,
    runOn_load_of_read hsaved hreopened, hsnapshot, runOn_save_of_write hagain⟩

/-- The text of a library file that leaves out what it can, with a line break and a quotation mark
in a name. -/
def sparseText : String :=
  "\x7b\"user_id\": \"tester\", \"playlists\": [\x7b\"id\": \"p\", \"name\": \"a\\n\\\"b\", " ++
    "\"owner\": \x7b\"id\": \"tester\"\x7d, " ++
    "\"items\": [\x7b\"track\": \x7b\"id\": \"t\"\x7d\x7d]\x7d]\x7d"

/-- The library with the text `sparseText`. -/
def sparseLibrary : Library := .ofSnapshot ⟨"tester",
  [{ playlist := { id := "p", name := some "a\n\"b", owner := { id := "tester" } }
     items := [.ofTrack "t"] }]⟩

/-- The tree with nothing but the file of that library. -/
def sparseTree : FileTree := { files := [(["l.json"], sparseText)] }

/-- The library is opened, gets another track and a playlist of a name that cannot be written as it
is, and is saved and opened again. -/
theorem parse_render_and_reopen_sparseLibrary :
    (load "l.json").runOn sparseTree = (.ok sparseLibrary, sparseTree) ∧
      ∃ saved reopened,
        (save "l.json" (sparseLibrary.replay (.ofCandidate "new")
            [.add "p" ["u"], .create "tester" "\\\u0001" true])).runOn sparseTree =
          (.ok (), saved) ∧
          (load "l.json").runOn saved = (.ok reopened, saved) ∧ reopened.ids = ["p", "new"] := by
  have hread : sparseTree.read "l.json" = some sparseText := by decide +kernel
  have hload : (load "l.json").runOn sparseTree = (.ok sparseLibrary, sparseTree) :=
    runOn_load_of_read hread (by decide +kernel)
  obtain ⟨saved, reopened, hsave, -, hagain, hsnapshot, -⟩ :=
    parse_render_and_reopen.2 _ _ _ (.ofCandidate "new")
      [.add "p" ["u"], .create "tester" "\\\u0001" true] hload
  refine ⟨hload, saved, reopened, hsave, hagain, ?_⟩
  rw [ids, playlists, hsnapshot]
  decide +kernel

end PlaylistCurator.Library
