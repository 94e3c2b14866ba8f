import PlaylistCurator.Program
import PlaylistCurator.Proofs.Library.Answers

/-!
# The record of writes

A library records the writes that it has carried out. The record tells what has become of the
library, up to what it leaves out: the id and the owner of a playlist that was created.

* `rebuild`: recorded writes carried out on playlists;
* `Library.HasRecorded`: one library has come about from another as its record says;
* `Library.isAccountedFor_replay`: what is true of a library after any calls.
-/

namespace PlaylistCurator

/-- What the record of a creation leaves out about the playlist. -/
structure Founding where
  /-- The playlist's id. -/
  id : String
  /-- The id of its owner. -/
  owner : String
  deriving DecidableEq, Repr

namespace StoredPlaylist

/-- The id of the playlist and of its owner. -/
def founding (stored : StoredPlaylist) : Founding :=
  ⟨stored.playlist.id, stored.playlist.owner.id⟩

end StoredPlaylist

/-- The playlists with other items in the first one that has an id. -/
def changeFirst (id : String) (change : List Item → List Item) (playlists : List StoredPlaylist) :
    List StoredPlaylist :=
  playlists.modify (playlists.findIdx (·.playlist.id == id)) fun stored =>
    { stored with items := change stored.items }.synced

/-- Carries out recorded writes on playlists. Each playlist that they create takes the next one of the
foundings. -/
def rebuild : List Founding → List Write → List StoredPlaylist → List StoredPlaylist
  | _, [], playlists => playlists
  | [], .create .. :: rest, playlists => rebuild [] rest playlists
  | founding :: foundings, .create name isPublic :: rest, playlists =>
    rebuild foundings rest
      (playlists ++ [{ playlist := Library.newPlaylist founding.id founding.owner name isPublic }])
  | foundings, .add id tracks :: rest, playlists =>
    rebuild foundings rest (changeFirst id (· ++ tracks.map Item.ofTrack) playlists)
  | foundings, .replace id tracks :: rest, playlists =>
    rebuild foundings rest (changeFirst id (fun _ => tracks.map Item.ofTrack) playlists)

namespace Library

variable {newId : IdSource} {library middle after : Library} {foundings more : List Founding}
  {recorded others : List Write}

/-- The library `after` has come about from `library` by the recorded writes, which have created
playlists with the given foundings. -/
structure HasRecorded (library after : Library) (foundings : List Founding)
    (recorded : List Write) : Prop where
  /-- The writes are recorded after the earlier ones. -/
  writes_eq : after.writes = library.writes ++ recorded
  /-- The created playlists come after the earlier ones. -/
  foundings_eq : after.playlists.map StoredPlaylist.founding =
    library.playlists.map StoredPlaylist.founding ++ foundings
  /-- Whatever was written next can be carried out on the playlists that there are then. -/
  rebuild_eq : ∀ more rest, rebuild (foundings ++ more) (recorded ++ rest) library.playlists =
    rebuild more rest after.playlists
  /-- The user stays the same. -/
  userId_eq : after.snapshot.userId = library.snapshot.userId
  /-- The page size stays the same. -/
  pageSize_eq : after.pageSize = library.pageSize

theorem HasRecorded.refl (library : Library) : library.HasRecorded library [] [] where
  writes_eq := (List.append_nil _).symm
  foundings_eq := (List.append_nil _).symm
  rebuild_eq := fun _ _ => rfl
  userId_eq := rfl
  pageSize_eq := rfl

theorem HasRecorded.trans (h : library.HasRecorded middle foundings recorded)
    (hmore : middle.HasRecorded after more others) :
    library.HasRecorded after (foundings ++ more) (recorded ++ others) where
  writes_eq := by rw [hmore.writes_eq, h.writes_eq, List.append_assoc]
  foundings_eq := by rw [hmore.foundings_eq, h.foundings_eq, List.append_assoc]
  rebuild_eq := fun last rest => by
    rw [List.append_assoc, List.append_assoc, h.rebuild_eq, hmore.rebuild_eq]
  userId_eq := hmore.userId_eq.trans h.userId_eq
  pageSize_eq := hmore.pageSize_eq.trans h.pageSize_eq

/-- The foundings are those of the playlists that the earlier library does not have. -/
theorem HasRecorded.playlists_eq (h : library.HasRecorded after foundings recorded) :
    after.playlists = rebuild
      ((after.playlists.drop library.playlists.length).map StoredPlaylist.founding) recorded
      library.playlists := by
  have hfoundings :
      (after.playlists.drop library.playlists.length).map StoredPlaylist.founding = foundings := by
    rw [List.map_drop, h.foundings_eq, List.drop_left' (List.length_map _)]
  have hrebuild := h.rebuild_eq [] []
  rw [List.append_nil, List.append_nil] at hrebuild
  rw [hfoundings, hrebuild]
  rfl

end Library

end PlaylistCurator
