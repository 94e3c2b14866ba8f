import PlaylistCurator.Proofs.Curation.Draining
import PlaylistCurator.Proofs.Library.Answers

/-!
# Reading and writing whole playlists without outage

Reading a whole list of a library changes nothing, whatever the page size, and adding tracks in pieces
adds all of them. Main statements:

* `reads_allPlaylists`, `reads_tracksOf`: what the commands read;
* `yields_findOrCreate`, `yields_addTracks`: what they write.
-/

namespace PlaylistCurator

open Dialogue

variable {newId : IdSource} {library : Library}

namespace Curation

/-! ## Reads -/

/-- All playlists of the user are those of the library. -/
theorem reads_allPlaylists (newId : IdSource) (library : Library) :
    allPlaylists.Reads newId library library.listing :=
  ⟨_, isWrite_eq_false_of_mem_drain rfl fun _ => rfl, yields_allPlaylists newId library⟩

/-- All items of a playlist are those of the first stored playlist with its id. -/
theorem reads_allItems {id : String} {stored : StoredPlaylist}
    (hfind : library.find? id = some stored) :
    (allItems id).Reads newId library stored.items :=
  ⟨_, isWrite_eq_false_of_mem_drain rfl fun _ => rfl, yields_allItems hfind⟩

/-- The tracks of a playlist are those of the first stored playlist with its id. -/
theorem reads_tracksOf (newId : IdSource) {id : String} (hid : id ∈ library.ids) :
    (tracksOf id).Reads newId library (library.tracksAt id) := by
  obtain ⟨stored, hfind⟩ := Option.isSome_iff_exists.1 (Library.isSome_find?_iff.2 hid)
  have htracks : library.tracksAt id = stored.trackIds := by
    rw [Library.tracksAt, hfind]
    rfl
  rw [htracks]
  exact ⟨_, isWrite_eq_false_of_mem_drain rfl fun _ => rfl, yields_tracksOf hfind⟩

/-- Reading the tracks of a playlist takes at least one call. -/
theorem calls_ne_nil_of_yields_tracksOf {id : String} {tracks : List String} {after : Library}
    {calls : List Call} (h : (tracksOf id).Yields newId library tracks after calls) :
    calls ≠ [] :=
  calls_ne_nil_of_yields_ask (.items id) h

/-! ## Writes -/

/-- The calls by which a playlist of a name is created, unless there is one. -/
def creationCalls (library : Library) (name : String) : List Call :=
  if (library.firstNamed? name).isSome then []
  else [.userId, .create library.snapshot.userId name false]

/-- A playlist of a name is found or created, private and as the last one. -/
theorem yields_findOrCreate (newId : IdSource) (library : Library) (name : String) :
    ∃ target, (library.withNamed newId name).firstNamed? name = some target ∧
      (findOrCreate library.listing name).Yields newId library target.playlist.id
        (library.withNamed newId name) (creationCalls library name) := by
  cases hfind : library.firstNamed? name with
  | some target =>
    have hsome : (library.firstNamed? name).isSome := by simp [hfind]
    refine ⟨target, ?_, ?_⟩
    · rw [Library.withNamed_of_isSome hsome, hfind]
    · rw [findOrCreate, findNamed?_listing, hfind, Library.withNamed_of_isSome hsome,
        creationCalls, if_pos hsome]
      rfl
  | none =>
    -- The service tells the user's id and then creates the playlist for this user.
    rw [Library.withNamed_of_eq_none hfind]
    refine ⟨_, Library.firstNamed?_withNew hfind newId, ?_⟩
    rw [findOrCreate, findNamed?_listing, hfind, creationCalls, hfind]
    exact (yields_call rfl).bind ((yields_call rfl).bind (yields_done _ _))

/-- Pieces of tracks that are not too long are added in turn. -/
theorem yields_addPieces (newId : IdSource) (activity : Activity) {id : String}
    {pieces : List (List String)} (hsynced : library.IsSynced) (hid : id ∈ library.ids)
    (hpieces : ∀ piece ∈ pieces, piece.length ≤ maxTracksPerCall) :
    (addPieces activity id pieces).Yields newId library () (library.added id pieces)
      (pieces.map (.add id)) := by
  induction pieces generalizing library with
  | nil =>
    rw [Library.added_nil hsynced]
    exact yields_done library ()
  | cons piece rest ih =>
    rw [List.forall_mem_cons] at hpieces
    have hrest := ih (hsynced.added id [piece]) (by rwa [Library.ids_added]) hpieces.2
    rw [Library.added_added] at hrest
    exact (yields_call (Library.answer_add hid hpieces.1)).bind hrest

/-- Tracks are added in calls of at most `maxTracksPerCall` each. -/
theorem yields_addTracks (newId : IdSource) {id : String} (hsynced : library.IsSynced)
    (hid : id ∈ library.ids) (tracks : List String) :
    (addTracks id tracks).Yields newId library ()
      (library.added id (chunks maxTracksPerCall tracks))
      ((chunks maxTracksPerCall tracks).map (.add id)) :=
  yields_addPieces newId _ hsynced hid fun _ hpiece => length_le_of_mem_chunks hpiece

end Curation

end PlaylistCurator
