import PlaylistCurator.Catalog.Page
import PlaylistCurator.Catalog.Playlist

/-!
# Calls to the music service

What can be asked of a music service, and what kind of answer each call has. Reads are answered page
by page; writes carry at most `maxTracksPerCall` tracks.
-/

namespace PlaylistCurator

/-- The largest number of tracks that a single call may carry. -/
def maxTracksPerCall : Nat := 100

/-- A call to the music service. -/
inductive Call
  /-- The id of the user. -/
  | userId
  /-- The first page of the user's playlists. -/
  | playlists
  /-- The page that follows the page at an offset in the user's playlists. -/
  | playlistsAfter (offset : Nat) (next : Option Nat)
  /-- The first page of a playlist's items. -/
  | items (id : String)
  /-- The page that follows the page at an offset in a playlist's items. -/
  | itemsAfter (id : String) (offset : Nat) (next : Option Nat)
  /-- Creates an empty playlist for an owner. -/
  | create (owner name : String) (isPublic : Bool)
  /-- Adds tracks at the end of a playlist. -/
  | add (id : String) (tracks : List String)
  /-- Replaces the items of a playlist by tracks. -/
  | replace (id : String) (tracks : List String)
  deriving DecidableEq, Repr

namespace Call

/-- The answer to a call. -/
def Reply : Call → Type
  | .userId => String
  | .playlists => Listed Playlist
  | .playlistsAfter .. => Option (Page Playlist)
  | .items _ => Listed Item
  | .itemsAfter .. => Option (Page Item)
  | .create .. => Playlist
  | .add .. => Unit
  | .replace .. => Unit

/-- Whether a call changes the library. -/
def isWrite : Call → Bool
  | .userId | .playlists | .playlistsAfter .. | .items _ | .itemsAfter .. => false
  | .create .. | .add .. | .replace .. => true

end Call

end PlaylistCurator
