import PlaylistCurator.Catalog.Page
import PlaylistCurator.Catalog.Playlist
import PlaylistCurator.Json.Fields
import PlaylistCurator.Json.Reader
import PlaylistCurator.Json.Writer

/-!
# Snapshots of a library

A snapshot is the JSON document in which a library is kept: the user's id and the stored playlists.
This module says how snapshots, and the records they are made of, are written and read.

A stored playlist must be given as an object, and all of it except its items is kept while it is
read; see `Json.isStorable`. Every other record can also be given as the list of its fields.

* `Snapshot.parse`, `Snapshot.render`: a snapshot's text.
-/

namespace PlaylistCurator

/-- The contents of a library. -/
structure Snapshot where
  /-- The id of the user whose library it is. -/
  userId : String
  /-- The playlists in order. -/
  playlists : List StoredPlaylist := []
  deriving DecidableEq, Repr

namespace Owner

/-- Reads an owner. -/
def ofJson? (value : Json) : Option Owner := do
  let fields ← Json.Fields.ofJson? ["id", "display_name"] value
  return {
    id := ← fields.required "id" Json.text?
    displayName := ← fields.optional "display_name" Json.text? }

/-- Writes an owner. -/
def toJson (owner : Owner) : Json :=
  .ofMembers [
    ("id", .ofText owner.id),
    ("display_name", .ofOption .ofText owner.displayName)]

end Owner

namespace TrackCount

/-- Reads a track count. -/
def ofJson? (value : Json) : Option TrackCount := do
  let fields ← Json.Fields.ofJson? ["total"] value
  return { total := UInt32.ofNat (← fields.required "total" (Json.natBelow? UInt32.size)) }

/-- Writes a track count. -/
def toJson (count : TrackCount) : Json :=
  .ofMembers [("total", .ofNat count.total.toNat)]

end TrackCount

namespace Track

/-- Reads a track. -/
def ofJson? (value : Json) : Option Track := do
  let fields ← Json.Fields.ofJson? ["id", "name"] value
  return {
    id := ← fields.optional "id" Json.text?
    name := ← fields.optional "name" Json.text? }

/-- Writes a track. -/
def toJson (track : Track) : Json :=
  .ofMembers [
    ("id", .ofOption .ofText track.id),
    ("name", .ofOption .ofText track.name)]

end Track

namespace Item

/-- Reads an item. -/
def ofJson? (value : Json) : Option Item := do
  let fields ← Json.Fields.ofJson? ["added_at", "track"] value
  return {
    addedAt := ← fields.optional "added_at" Json.text?
    track := ← fields.optional "track" Track.ofJson? }

/-- Writes an item. -/
def toJson (item : Item) : Json :=
  .ofMembers [
    ("added_at", .ofOption .ofText item.addedAt),
    ("track", .ofOption Track.toJson item.track)]

end Item

namespace Page

/-- The bound on offsets in a document. -/
def offsetBound : Nat := UInt64.size

/-- Reads a page of items. -/
def ofJson? (value : Json) : Option (Page Item) := do
  let fields ← Json.Fields.ofJson? ["items", "offset", "next"] value
  return {
    items := ← fields.required "items" (Json.list? Item.ofJson?)
    offset := ← fields.withDefault "offset" 0 (Json.natBelow? offsetBound)
    next := ← fields.optional "next" (Json.natBelow? offsetBound) }

end Page

namespace Playlist

/-- The keys of a listed playlist. -/
def keys : List String := ["id", "name", "description", "owner", "tracks", "public"]

/-- Reads a listed playlist from its fields. -/
def ofFields? (fields : Json.Fields) : Option Playlist := do
  return {
    id := ← fields.required "id" Json.text?
    name := ← fields.optional "name" Json.text?
    description := ← fields.optional "description" Json.text?
    owner := ← fields.required "owner" Owner.ofJson?
    tracks := ← fields.withDefault "tracks" {} TrackCount.ofJson?
    isPublic := ← fields.optional "public" Json.bool? }

/-- Reads a listed playlist. -/
def ofJson? (value : Json) : Option Playlist := do
  ofFields? (← Json.Fields.ofJson? keys value)

/-- The members of a listed playlist. -/
def members (playlist : Playlist) : List (String × Json) := [
  ("id", .ofText playlist.id),
  ("name", .ofOption .ofText playlist.name),
  ("description", .ofOption .ofText playlist.description),
  ("owner", playlist.owner.toJson),
  ("tracks", playlist.tracks.toJson),
  ("public", .ofOption .bool playlist.isPublic)]

end Playlist

namespace StoredPlaylist

/-- The greatest number of lists and objects inside each other that can be kept. -/
def nestingLimit : Nat := 127

/-- Reads a stored playlist that stands inside `depth` lists and objects. -/
def ofJson? (depth : Nat) : Json → Option StoredPlaylist
  | .object members => do
    let fields ← Json.Fields.ofMembers? ("items" :: Playlist.keys) members
    let kept := members.filter (Json.textOf? ·.1 != some "items")
    if !Json.membersAreStorable (nestingLimit - depth - 1) kept then none
    return {
      playlist := ← Playlist.ofFields? fields
      items := ← fields.withDefault "items" [] (Json.list? Item.ofJson?) }
  | _ => none

/-- Writes a stored playlist. -/
def toJson (stored : StoredPlaylist) : Json :=
  .ofMembers (stored.playlist.members ++ [("items", .array (stored.items.map Item.toJson))])

end StoredPlaylist

namespace Snapshot

/-- Reads a snapshot. -/
def ofJson? (value : Json) : Option Snapshot := do
  let fields ← Json.Fields.ofJson? ["user_id", "playlists"] value
  return {
    userId := ← fields.required "user_id" Json.text?
    playlists := ← fields.withDefault "playlists" [] (Json.list? (StoredPlaylist.ofJson? 2)) }

/-- Writes a snapshot. -/
def toJson (snapshot : Snapshot) : Json :=
  .ofMembers [
    ("user_id", .ofText snapshot.userId),
    ("playlists", .array (snapshot.playlists.map StoredPlaylist.toJson))]

/-- Reads a snapshot from its text. -/
def parse (text : String) : Option Snapshot :=
  (Json.parse text).bind ofJson?

/-- The text of a snapshot. -/
def render (snapshot : Snapshot) : String :=
  snapshot.toJson.pretty

end Snapshot

end PlaylistCurator
