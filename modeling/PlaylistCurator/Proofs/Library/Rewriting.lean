import PlaylistCurator.Proofs.Library.Answers

/-!
# Rewritten playlists

A playlist is rewritten in pieces of tracks: the first piece replaces its items, and the other
pieces are added at the end. Main definitions and statement:

* `Library.rewritten`: the library after a playlist was rewritten in pieces;
* `Library.HasRewritten`: a stored playlist has plain items for some tracks in place of its own;
* `Library.hasRewritten_rewritten`: rewriting a playlist does so, and changes nothing else.
-/

namespace PlaylistCurator

/-- The playlist with plain items for tracks in place of its own, and with its new track count. -/
def StoredPlaylist.withTracks (stored : StoredPlaylist) (tracks : List String) : StoredPlaylist :=
  { stored with items := tracks.map Item.ofTrack }.synced

namespace StoredPlaylist

@[simp]
theorem id_withTracks (stored : StoredPlaylist) (tracks : List String) :
    (stored.withTracks tracks).playlist.id = stored.playlist.id := rfl

@[simp]
theorem name_withTracks (stored : StoredPlaylist) (tracks : List String) :
    (stored.withTracks tracks).playlist.name = stored.playlist.name := rfl

@[simp]
theorem items_withTracks (stored : StoredPlaylist) (tracks : List String) :
    (stored.withTracks tracks).items = tracks.map Item.ofTrack := rfl

@[simp]
theorem trackIds_withTracks (stored : StoredPlaylist) (tracks : List String) :
    (stored.withTracks tracks).trackIds = tracks := by
  simp [trackIds]

/-- Tracks that are added to a rewritten playlist come after those that are there. -/
theorem withAdded_withTracks (stored : StoredPlaylist) (tracks more : List String) :
    (stored.withTracks tracks).withAdded more = stored.withTracks (tracks ++ more) := by
  simp [withAdded, withTracks, synced]

end StoredPlaylist

namespace Library

variable {newId : IdSource} {library after : Library} {stored : StoredPlaylist}
  {tracks : List String}

/-! ## Writes -/

/-- The items of the first playlist with an id are changed where it stands. -/
theorem changeItems?_append_cons {earlier later : List StoredPlaylist}
    (hearlier : ∀ other ∈ earlier, other.playlist.id ≠ stored.playlist.id)
    (change : List Item → List Item) :
    changeItems? stored.playlist.id change (earlier ++ stored :: later) =
      some (earlier ++ { stored with items := change stored.items }.synced :: later) := by
  induction earlier with
  | nil => simp [changeItems?]
  | cons other earlier ih =>
    rw [List.forall_mem_cons] at hearlier
    simp [changeItems?, hearlier.1, ih hearlier.2]

/-- The library after the items of the first playlist with an id were replaced by tracks. -/
def replaced (library : Library) (id : String) (tracks : List String) : Library :=
  { library with
    snapshot.playlists :=
      (changeItems? id (fun _ => tracks.map Item.ofTrack) library.playlists).getD library.playlists
    writes := library.writes ++ [.replace id tracks] }

/-- The items of a playlist that is there are replaced by a piece that is not too long. -/
theorem answer_replace {id : String} (newId : IdSource) (hid : id ∈ library.ids)
    (hlength : tracks.length ≤ maxTracksPerCall) :
    library.answer newId (.replace id tracks) = .ok ((), library.replaced id tracks) := by
  obtain ⟨changed, hchanged⟩ := exists_changeItems? (fun _ => tracks.map Item.ofTrack) hid
  simp only [answer, writeItems, if_neg (Nat.not_lt.2 hlength), hchanged, Except.map, replaced,
    Option.getD_some]

/-- The library after the first playlist with an id was rewritten in the given pieces. Without pieces
nothing is written. -/
def rewritten (library : Library) (id : String) : (pieces : List (List String)) → Library
  | [] => library
  | first :: rest => (library.replaced id first).added id rest

/-! ## What rewriting does -/

/-- The library `after` is `library` with plain items for tracks in place of the items of a stored
playlist. -/
structure HasRewritten (stored : StoredPlaylist) (tracks : List String) (library after : Library) :
    Prop where
  /-- The playlist stands rewritten in its place; the other playlists are the same. -/
  playlists_eq : after.playlists = library.playlists.replace stored (stored.withTracks tracks)
  /-- The user stays the same. -/
  userId_eq : after.snapshot.userId = library.snapshot.userId
  /-- The page size stays the same. -/
  pageSize_eq : after.pageSize = library.pageSize

/-- Where ids are distinct, rewriting a playlist by its id replaces its items by the tracks of all
pieces. -/
theorem hasRewritten_rewritten (hids : library.ids.Nodup) (hstored : stored ∈ library.playlists)
    {pieces : List (List String)} (hpieces : pieces ≠ []) :
    library.HasRewritten stored pieces.flatten
      (library.rewritten stored.playlist.id pieces) := by
  obtain ⟨first, rest, rfl⟩ := List.exists_cons_of_ne_nil hpieces
  refine { playlists_eq := ?_, userId_eq := rfl, pageSize_eq := rfl }
  -- No playlist before this one has its id.
  obtain ⟨-, earlier, later, hsplit, hearlier, hreplace⟩ :=
    exists_append_of_find? (find?_of_mem hids hstored)
  have hreplaced : (library.replaced stored.playlist.id first).playlists =
      earlier ++ stored.withTracks first :: later := by
    change (changeItems? _ _ library.playlists).getD library.playlists = _
    rw [hsplit, changeItems?_append_cons (by simpa using hearlier)]
    rfl
  calc addFirst (·.playlist.id == stored.playlist.id) rest.flatten
        (library.replaced stored.playlist.id first).playlists
    _ = earlier ++ (stored.withTracks first).withAdded rest.flatten :: later := by
      rw [hreplaced, addFirst_append_cons hearlier (by simp)]
    _ = library.playlists.replace stored (stored.withTracks (first :: rest).flatten) := by
      rw [hreplace, StoredPlaylist.withAdded_withTracks, List.flatten_cons]

/-- The first playlist of the name is the rewritten one. -/
theorem HasRewritten.firstNamed?_eq {name : String}
    (h : library.HasRewritten stored tracks after)
    (hname : library.firstNamed? name = some stored) :
    after.firstNamed? name = some (stored.withTracks tracks) := by
  obtain ⟨hstored, earlier, later, -, hearlier, hreplace⟩ := exists_append_of_find? hname
  rw [firstNamed?, h.playlists_eq, hreplace]
  exact List.find?_eq_some_iff_append.2 ⟨hstored, earlier, later, rfl, by simpa using hearlier⟩

end Library

end PlaylistCurator
