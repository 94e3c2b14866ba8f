import PlaylistCurator.Curation.Reading
import PlaylistCurator.Query.Filter
import PlaylistCurator.Query.Sort

/-!
# Listing playlists

The listing of a user's playlists, filtered and then sorted. Both expressions are read before
anything is asked of the music service.
-/

namespace PlaylistCurator.Curation

/-- What reading an expression yields, as the beginning of a dialogue. -/
def ofQuery {α : Type} : Except QueryError α → Dialogue α
  | .ok result => return result
  | .error error => .failWith (.query error)

/-- The lines of the listing that pass a filter expression, in the order of a sort expression. -/
def list (filter sort : Option String) : Dialogue (List Record) := do
  let filters ← ofQuery (FilterSet.parse filter)
  let keys ← ofQuery (SortKey.parse sort)
  let playlists ← allPlaylists
  return sortBy keys (filters.narrow (playlists.map Playlist.toRecord))

end PlaylistCurator.Curation
