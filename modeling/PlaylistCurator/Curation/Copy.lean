import PlaylistCurator.Curation.Reading

/-!
# Copying and shuffling playlists

Copying adds the tracks of one playlist to another, which is created if it is missing. Shuffling
replaces the items of a playlist by its tracks in another order. Both work on the first playlist of
a name.
-/

namespace PlaylistCurator.Curation

/-- A way to put tracks into another order. -/
structure Shuffle where
  /-- The tracks in the other order. -/
  order : List String → List String
  /-- No track is lost or added. -/
  perm : ∀ tracks, (order tracks).Perm tracks

namespace Shuffle

/-- A track put among others after the first `position` ones, counted round. -/
def insertAt (position : Nat) (track : String) (tracks : List String) : List String :=
  let position := position % (tracks.length + 1)
  tracks.take position ++ track :: tracks.drop position

/-- The tracks, each put among those after it at a position taken from a list in turn. -/
def insertAll : (positions : List Nat) → (tracks : List String) → List String
  | _, [] => []
  | [], tracks => tracks
  | position :: positions, track :: rest => insertAt position track (insertAll positions rest)

/-- Putting a track among others loses none. -/
theorem insertAt_perm (position : Nat) (track : String) (tracks : List String) :
    (insertAt position track tracks).Perm (track :: tracks) := by
  unfold insertAt
  refine List.perm_middle.trans ?_
  rw [List.take_append_drop]

/-- Moving each track to a position loses none. -/
theorem insertAll_perm (positions : List Nat) (tracks : List String) :
    (insertAll positions tracks).Perm tracks := by
  fun_induction insertAll positions tracks with
  | case1 => exact .refl _
  | case2 => exact .refl _
  | case3 position positions track rest ih =>
    exact (insertAt_perm position track _).trans (ih.cons track)

/-- The shuffle that takes the new positions of the tracks from a list, which may depend on how many
tracks there are. -/
def ofPositions (positions : (count : Nat) → List Nat) : Shuffle where
  order tracks := insertAll (positions tracks.length) tracks
  perm tracks := insertAll_perm _ tracks

end Shuffle

/-- The first of the playlists that has a name; that there is none ends the dialogue. -/
def findListed (playlists : List Playlist) (name : String) : Dialogue Playlist :=
  match findNamed? playlists name with
  | some playlist => return playlist
  | none => .failWith (.playlistNotFound name)

/-- Adds the tracks of the playlist `source` to the playlist `destination`, in another order if a
shuffle is given, and says how many there are. -/
def copy (source destination : String) (shuffle : Option Shuffle) : Dialogue Nat := do
  let playlists ← allPlaylists
  let playlist ← findListed playlists source
  let tracks ← tracksOf playlist.id
  let tracks := match shuffle with
    | none => tracks
    | some shuffle => shuffle.order tracks
  let destinationId ← findOrCreate playlists destination
  addTracks destinationId tracks
  return tracks.length

/-- Replaces the items of a playlist by its tracks in another order and says how many there are. A
playlist without tracks is left alone. -/
def randomize (name : String) (shuffle : Shuffle) : Dialogue Nat := do
  let playlists ← allPlaylists
  let playlist ← findListed playlists name
  let tracks ← tracksOf playlist.id
  match chunks maxTracksPerCall (shuffle.order tracks) with
  | [] => return 0
  | first :: rest => do
    Dialogue.call (.replace playlist.id first) (some (.replaceTracks name))
    addPieces (.addReordered name) playlist.id rest
    return tracks.length

end PlaylistCurator.Curation
