import PlaylistCurator.Record

/-!
# Playlists

What is known about playlists, their items and the tracks behind the items. A listing names
playlists with a track count; a library stores them together with their items.

* `StoredPlaylist.trackIds`: the tracks of a stored playlist, leaving out items without one.
* `StoredPlaylist.synced`: the stored playlist with a track count that counts its items.
-/

namespace PlaylistCurator

/-- The owner of a playlist. -/
structure Owner where
  /-- The owner's id. -/
  id : String
  /-- The name under which the owner is shown. -/
  displayName : Option String := none
  deriving DecidableEq, Repr

/-- How many items a listing says that a playlist has. -/
structure TrackCount where
  /-- The number of items. -/
  total : UInt32 := 0
  deriving DecidableEq, Repr

/-- A playlist as it is listed. -/
structure Playlist where
  /-- The playlist's id. -/
  id : String
  /-- Its name. -/
  name : Option String := none
  /-- Its description. -/
  description : Option String := none
  /-- Its owner. -/
  owner : Owner
  /-- Its track count. -/
  tracks : TrackCount := {}
  /-- Whether everybody can see it. -/
  isPublic : Option Bool := none
  deriving DecidableEq, Repr

/-- The track of a playlist item. -/
structure Track where
  /-- The track's id, which local files lack. -/
  id : Option String := none
  /-- The track's name. -/
  name : Option String := none
  deriving DecidableEq, Repr

/-- An entry of a playlist. -/
structure Item where
  /-- When the entry was added. -/
  addedAt : Option String := none
  /-- The track, unless it has left the catalogue. -/
  track : Option Track := none
  deriving DecidableEq, Repr

/-- A playlist with its items. -/
structure StoredPlaylist where
  /-- The playlist as it is listed. -/
  playlist : Playlist
  /-- Its items in order. -/
  items : List Item := []
  deriving DecidableEq, Repr

namespace Item

/-- The plain item for a track. -/
def ofTrack (id : String) : Item :=
  { track := some { id := some id } }

/-- The id of the item's track, if it has one. -/
def trackId? (item : Item) : Option String :=
  item.track.bind (·.id)

@[simp]
theorem trackId?_ofTrack (id : String) : (ofTrack id).trackId? = some id := rfl

end Item

/-- The track ids of a list of items, leaving out items without one. -/
def trackIds (items : List Item) : List String :=
  items.filterMap Item.trackId?

/-- Plain items have exactly the tracks that they are made for. -/
@[simp]
theorem trackIds_map_ofTrack (ids : List String) : trackIds (ids.map Item.ofTrack) = ids := by
  simp [trackIds, List.filterMap_map, Function.comp_def]

@[simp]
theorem trackIds_append (items more : List Item) :
    trackIds (items ++ more) = trackIds items ++ trackIds more :=
  List.filterMap_append

namespace StoredPlaylist

/-- The track ids of the playlist's items. -/
def trackIds (stored : StoredPlaylist) : List String :=
  PlaylistCurator.trackIds stored.items

/-- The number of items as far as a track count can say it. -/
def countOf (items : List Item) : TrackCount :=
  ⟨UInt32.ofNat (min items.length (UInt32.size - 1))⟩

/-- The playlist with a track count that counts its items. -/
def synced (stored : StoredPlaylist) : StoredPlaylist :=
  { stored with playlist := { stored.playlist with tracks := countOf stored.items } }

/-- A track count says the number of items, up to the largest number it can hold. -/
theorem toNat_total_countOf (items : List Item) :
    (countOf items).total.toNat = min items.length (UInt32.size - 1) := by
  have h : min items.length (UInt32.size - 1) < 2 ^ 32 := by
    have : UInt32.size = 2 ^ 32 := rfl
    omega
  exact UInt32.toNat_ofNat_of_lt' h

/-- Counting the items again changes nothing. -/
@[simp]
theorem synced_synced (stored : StoredPlaylist) : stored.synced.synced = stored.synced := rfl

end StoredPlaylist

/-- The line of a listing for a playlist. -/
def Playlist.toRecord (playlist : Playlist) : Record where
  id := playlist.id
  name := playlist.name.map .text
  size := some (.number (Int64.ofNat playlist.tracks.total.toNat))
  owner := some (.text playlist.owner.id)
  description := playlist.description.map .text

/-- Every track count is a size. -/
theorem toInt_ofNat_total (count : TrackCount) :
    (Int64.ofNat count.total.toNat).toInt = count.total.toNat := by
  have hlt : count.total.toNat < 2 ^ 32 := count.total.toNat_lt
  exact Int64.toInt_ofNat_of_lt (by omega)

/-- The size of a listed playlist is shown by the digits of its track count. -/
theorem toList_text_size_toRecord (playlist : Playlist) :
    (playlist.toRecord.text .size).toList = Nat.toDigits 10 playlist.tracks.total.toNat := by
  have htext : playlist.toRecord.text .size =
      toString (Int64.ofNat playlist.tracks.total.toNat).toInt := rfl
  rw [htext, toInt_ofNat_total, Int.toString_eq_repr]
  exact Nat.toList_repr

end PlaylistCurator
