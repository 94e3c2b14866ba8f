import PlaylistCurator.Service.Dialogue

/-!
# Reading and writing whole playlists

The parts that the commands are made of: fetching all playlists or all tracks of one over as many
pages as there are, finding a playlist by name or creating it, and adding tracks in calls of at most
`maxTracksPerCall` each.
-/

namespace PlaylistCurator.Curation

/-- All playlists of the user. -/
def allPlaylists : Dialogue (List Playlist) := do
  let first ← Dialogue.call .playlists (some .fetchPlaylists)
  Page.collect (fun page => Dialogue.call (.playlistsAfter page.offset page.next)
    (some .fetchPlaylists)) first.total first.page

/-- All items of a playlist. -/
def allItems (id : String) : Dialogue (List Item) := do
  let first ← Dialogue.call (.items id) (some (.fetchTracks id))
  Page.collect (fun page => Dialogue.call (.itemsAfter id page.offset page.next)
    (some (.fetchTracks id))) first.total first.page

/-- The track ids of a playlist's items, leaving out items without one. -/
def tracksOf (id : String) : Dialogue (List String) :=
  trackIds <$> allItems id

/-- The first of the playlists that has a name. -/
def findNamed? (playlists : List Playlist) (name : String) : Option Playlist :=
  playlists.find? (·.name == some name)

/-- The id of the first of the playlists that has a name, or of a private playlist created for the
user under that name. -/
def findOrCreate (playlists : List Playlist) (name : String) : Dialogue String :=
  match findNamed? playlists name with
  | some playlist => return playlist.id
  | none => do
    let user ← Dialogue.call .userId
    let playlist ← Dialogue.call (.create user name false) (some (.createPlaylist name))
    return playlist.id

/-- Adds pieces of a list of tracks to a playlist, a call for each piece. -/
def addPieces (activity : Activity) (id : String) : (pieces : List (List String)) → Dialogue Unit
  | [] => return ()
  | piece :: rest => do
    Dialogue.call (.add id piece) (some activity)
    addPieces activity id rest

/-- Adds tracks to a playlist, in as many calls as it takes. -/
def addTracks (id : String) (tracks : List String) : Dialogue Unit :=
  addPieces (.addTracks id) id (chunks maxTracksPerCall tracks)

end PlaylistCurator.Curation
