import PlaylistCurator.Catalog.Snapshot
import PlaylistCurator.Failure
import PlaylistCurator.Service.Call

/-!
# Libraries

A library stands in for the music service: it holds the user's playlists, hands them out page by
page, and records the writes that it has carried out, oldest first. The track count of a stored
playlist always counts its items. A refused call leaves the library as it was.

* `Library.ofSnapshot`, `Library.parse`: a library from its contents.
* `Library.answer`: what the library answers to a call, and what becomes of it.
-/

namespace PlaylistCurator

/-- A write that a library has carried out. -/
inductive Write
  | create (name : String) (isPublic : Bool)
  | add (id : String) (tracks : List String)
  | replace (id : String) (tracks : List String)
  deriving DecidableEq, Repr

/-- A choice of an id for a new playlist, given the ids that are taken. -/
abbrev IdSource : Type := (taken : List String) → { id : String // id ∉ taken }

namespace IdSource

/-- An id longer than all that are taken. -/
def unusedId (taken : List String) : String :=
  String.ofList (List.replicate ((taken.foldr (fun id longest => max id.length longest) 0) + 1) '0')

/-- An id longer than all that are taken is not taken. -/
theorem unusedId_not_mem (taken : List String) : unusedId taken ∉ taken := by
  have hle : ∀ id ∈ taken,
      id.length ≤ taken.foldr (fun id longest => max id.length longest) 0 := by
    intro id hid
    induction taken with
    | nil => exact absurd hid List.not_mem_nil
    | cons other rest ih =>
      rw [List.foldr_cons]
      rcases List.mem_cons.1 hid with rfl | hid
      · exact Nat.le_max_left ..
      · exact Nat.le_trans (ih hid) (Nat.le_max_right ..)
  intro hmem
  have := hle _ hmem
  rw [unusedId, String.length_ofList, List.length_replicate] at this
  omega

/-- Takes the given id unless it is taken already. -/
def ofCandidate (candidate : String) : IdSource := fun taken =>
  if h : candidate ∈ taken then ⟨unusedId taken, unusedId_not_mem taken⟩ else ⟨candidate, h⟩

end IdSource

/-- A library that answers for the music service. -/
structure Library where
  /-- What the library holds. -/
  snapshot : Snapshot
  /-- The number of entries on a page. -/
  pageSize : Nat := 50
  /-- The writes carried out so far, oldest first. -/
  writes : List Write := []
  /-- A page has room for an entry. -/
  pageSize_pos : 0 < pageSize := by decide
  deriving DecidableEq, Repr

namespace Library

/-- A library with the given contents, whose track counts are brought up to date. -/
def ofSnapshot (snapshot : Snapshot) : Library where
  snapshot := { snapshot with playlists := snapshot.playlists.map StoredPlaylist.synced }

/-- The library of a document. -/
def parse (text : String) : Option Library :=
  (Snapshot.parse text).map ofSnapshot

/-- The library with another page size; zero counts as one. -/
def withPageSize (library : Library) (size : Nat) : Library :=
  { library with pageSize := max size 1, pageSize_pos := by omega }

/-- The stored playlists in order. -/
def playlists (library : Library) : List StoredPlaylist :=
  library.snapshot.playlists

/-- The ids of the stored playlists in order. -/
def ids (library : Library) : List String :=
  library.playlists.map (·.playlist.id)

/-- The first stored playlist with an id. -/
def find? (library : Library) (id : String) : Option StoredPlaylist :=
  library.playlists.find? (·.playlist.id == id)

/-- The track ids of the first stored playlist of a name. -/
def trackIdsNamed? (library : Library) (name : String) : Option (List String) :=
  (library.playlists.find? (·.playlist.name == some name)).map StoredPlaylist.trackIds

/-- The playlists with other items in the first one that has an id, unless none has it. -/
def changeItems? (id : String) (change : List Item → List Item) :
    List StoredPlaylist → Option (List StoredPlaylist)
  | [] => none
  | stored :: rest =>
    if stored.playlist.id = id then
      some ({ stored with items := change stored.items }.synced :: rest)
    else (changeItems? id change rest).map (stored :: ·)

/-- The playlist that is created for an owner. -/
def newPlaylist (id owner name : String) (isPublic : Bool) : Playlist where
  id := id
  name := some name
  description := some ""
  owner := { id := owner }
  isPublic := some isPublic

/-- The library with an empty playlist put last. -/
def create (library : Library) (playlist : Playlist) (write : Write) : Library :=
  { library with
    snapshot.playlists := library.playlists ++ [{ playlist }]
    writes := library.writes ++ [write] }

/-- Carries out a write to the items of a playlist, whose tracks may not exceed the limit. -/
def writeItems (library : Library) (id : String) (tracks : List String)
    (change : List Item → List Item) (write : Write) : Except Cause Library :=
  if maxTracksPerCall < tracks.length then .error (.tooManyTracks tracks.length maxTracksPerCall)
  else
    match changeItems? id change library.playlists with
    | none => .error (.unknownPlaylist id)
    | some playlists =>
      .ok { library with snapshot.playlists := playlists, writes := library.writes ++ [write] }

/-- The first page of a list. -/
def firstPage {α : Type} (library : Library) (entries : List α) : Listed α :=
  ⟨Page.cut library.pageSize entries 0, entries.length⟩

/-- The page of a list at an offset, if there is to be one. -/
def pageAt {α : Type} (library : Library) (entries : List α) (next : Option Nat) :
    Option (Page α) :=
  next.map (Page.cut library.pageSize entries)

/-- What the library answers to a call, and the library afterwards. Asking for what follows a last
page needs no playlist. -/
def answer (newId : IdSource) : (call : Call) → Library → Except Cause (call.Reply × Library)
  | .userId, library => .ok (library.snapshot.userId, library)
  | .playlists, library =>
    .ok (library.firstPage (library.playlists.map (·.playlist)), library)
  | .playlistsAfter _ next, library =>
    .ok (library.pageAt (library.playlists.map (·.playlist)) next, library)
  | .items id, library =>
    match library.find? id with
    | none => .error (.unknownPlaylist id)
    | some stored => .ok (library.firstPage stored.items, library)
  | .itemsAfter id _ next, library =>
    match next, library.find? id with
    | none, _ => .ok (none, library)
    | some _, none => .error (.unknownPlaylist id)
    | some _, some stored => .ok (library.pageAt stored.items next, library)
  | .create owner name isPublic, library =>
    let playlist := newPlaylist (newId library.ids).1 owner name isPublic
    .ok (playlist, library.create playlist (.create name isPublic))
  | .add id tracks, library =>
    (library.writeItems id tracks (· ++ tracks.map Item.ofTrack) (.add id tracks)).map ((), ·)
  | .replace id tracks, library =>
    (library.writeItems id tracks (fun _ => tracks.map Item.ofTrack) (.replace id tracks)).map
      ((), ·)

/-- Changing the items of a playlist keeps the ids. -/
theorem map_id_changeItems? {id : String} {change : List Item → List Item}
    {playlists changed : List StoredPlaylist} (h : changeItems? id change playlists = some changed) :
    changed.map (·.playlist.id) = playlists.map (·.playlist.id) := by
  induction playlists generalizing changed with
  | nil => simp [changeItems?] at h
  | cons stored rest ih =>
    unfold changeItems? at h
    split at h
    · obtain rfl := Option.some.inj h
      rfl
    · obtain ⟨changedRest, hrest, rfl⟩ := Option.map_eq_some_iff.1 h
      simp [ih hrest]

end Library

end PlaylistCurator
