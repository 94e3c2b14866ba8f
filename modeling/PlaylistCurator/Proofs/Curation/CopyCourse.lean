import PlaylistCurator.Curation.Copy
import PlaylistCurator.Curation.List
import PlaylistCurator.Proofs.Curation.Reading
import PlaylistCurator.Proofs.Library.Rewriting

/-!
# The courses of listing, copying and shuffling without outage

These commands read all that they need before they write. Listing then is done; copying finds or
creates its destination and adds the tracks; shuffling replaces the items by the first piece of the
tracks and adds the other pieces. A playlist that is not listed ends copying and shuffling after the
listing was read.

* `run_list_or_reads`, `reads_list`: how listing goes;
* `exists_copyCourse`, `exists_run_copy_of_eq_none`: how copying goes;
* `exists_shuffleCourse`, `exists_run_randomize_of_eq_none`: how shuffling goes.
-/

namespace PlaylistCurator.Curation

open Dialogue

variable {newId : IdSource} {library : Library}

/-! ## Listing -/

/-- A filter expression that is refused ends listing before it makes calls, whatever the outage. -/
theorem run_list_of_filter_eq_error {filter : Option String} {error : QueryError}
    (hfilter : FilterSet.parse filter = .error error) (sort : Option String) (newId : IdSource)
    (outage : Outage) (library : Library) :
    (list filter sort).run newId outage library =
      ⟨.error { cause := .query error }, library, []⟩ := by
  rw [list, hfilter]
  rfl

/-- So does a sort expression that is refused, after the filter expression was read. -/
theorem run_list_of_sort_eq_error {filter sort : Option String} {filters : FilterSet}
    {error : QueryError} (hfilter : FilterSet.parse filter = .ok filters)
    (hsort : SortKey.parse sort = .error error) (newId : IdSource) (outage : Outage)
    (library : Library) :
    (list filter sort).run newId outage library =
      ⟨.error { cause := .query error }, library, []⟩ := by
  rw [list, hfilter, hsort]
  rfl

/-- With expressions that are read, listing reads the playlists of the library, of which it keeps
those that pass the filters, in the order of the keys. -/
theorem reads_list {filter sort : Option String} {filters : FilterSet} {keys : List SortKey}
    (hfilter : FilterSet.parse filter = .ok filters) (hsort : SortKey.parse sort = .ok keys)
    (newId : IdSource) (library : Library) :
    (list filter sort).Reads newId library
      (sortBy keys (filters.narrow (library.listing.map Playlist.toRecord))) := by
  rw [list, hfilter, hsort]
  exact (reads_allPlaylists newId library).bind (Reads.done library _)

/-- Listing refuses an expression before it makes calls, or it reads and gets through. -/
theorem run_list_or_reads (filter sort : Option String) (newId : IdSource) (library : Library) :
    (∃ error, (list filter sort).run newId .none library =
        ⟨.error { cause := .query error }, library, []⟩) ∨
      ∃ records, (list filter sort).Reads newId library records := by
  cases hfilter : FilterSet.parse filter with
  | error error => exact .inl ⟨error, run_list_of_filter_eq_error hfilter sort newId .none library⟩
  | ok filters =>
    cases hsort : SortKey.parse sort with
    | error error =>
      exact .inl ⟨error, run_list_of_sort_eq_error hfilter hsort newId .none library⟩
    | ok keys => exact .inr ⟨_, reads_list hfilter hsort newId library⟩

/-- Listing only reads, if it comes to making calls. -/
theorem isWrite_eq_false_of_mem_calls_run_list (filter sort : Option String) :
    ∀ call ∈ ((list filter sort).run newId .none library).calls, call.isWrite = false := by
  rcases run_list_or_reads filter sort newId library with ⟨error, hrun⟩ | ⟨records, hreads⟩
  · rw [hrun]
    exact List.forall_mem_nil _
  · obtain ⟨reads, hread, hyields⟩ := hreads
    rw [hyields]
    exact hread

/-! ## Playlists that are listed -/

/-- The tracks in the order of a shuffle, if there is one. -/
def Shuffle.reorder (shuffle : Option Shuffle) (tracks : List String) : List String :=
  match shuffle with
  | none => tracks
  | some shuffle => shuffle.order tracks

/-- A playlist that is listed is found. -/
theorem findListed_of_eq_some {name : String} {stored : StoredPlaylist}
    (h : library.firstNamed? name = some stored) :
    findListed library.listing name = .done stored.playlist := by
  rw [findListed, findNamed?_listing, h]
  rfl

/-- A playlist that is not listed ends the dialogue. -/
theorem findListed_of_eq_none {name : String} (h : library.firstNamed? name = none) :
    findListed library.listing name = .failWith (.playlistNotFound name) := by
  rw [findListed, findNamed?_listing, h]
  rfl

/-- A dialogue that needs a playlist that is not listed fails after the listing was read. -/
theorem exists_run_findListed_of_eq_none {α : Type} {name : String}
    (h : library.firstNamed? name = none)
    (following : List Playlist → Playlist → Dialogue α) :
    ∃ reads : List Call, (∀ call ∈ reads, call.isWrite = false) ∧
      (allPlaylists >>= fun playlists =>
          findListed playlists name >>= following playlists).run newId .none library =
        ⟨.error { cause := .playlistNotFound name }, library, reads⟩ := by
  obtain ⟨reads, hreads, hlist⟩ := reads_allPlaylists newId library
  refine ⟨reads, hreads, ?_⟩
  rw [run_bind_of_yields hlist, findListed_of_eq_none h]
  simp [failWith, run, runAfter]

/-- A dialogue that begins with a listed playlist and its tracks reads these first. -/
theorem exists_reads_source {name : String} {stored : StoredPlaylist}
    (h : library.firstNamed? name = some stored) (newId : IdSource) :
    ∃ reads : List Call, (∀ call ∈ reads, call.isWrite = false) ∧
      ∀ {α : Type} {following : List Playlist → Playlist → List String → Dialogue α} {result : α}
        {after : Library} {calls : List Call},
        (following library.listing stored.playlist
            (library.tracksAt stored.playlist.id)).Yields newId library result after calls →
        (allPlaylists >>= fun playlists => findListed playlists name >>= fun playlist =>
          tracksOf playlist.id >>= following playlists playlist).Yields newId library result after
          (reads ++ calls) := by
  obtain ⟨listingReads, hlisting, hlist⟩ := reads_allPlaylists newId library
  obtain ⟨trackReads, htracks, hread⟩ :=
    reads_tracksOf newId (Library.id_mem_of_firstNamed? h)
  refine ⟨listingReads ++ trackReads, List.forall_mem_append.2 ⟨hlisting, htracks⟩, ?_⟩
  intro α following result after calls hfollowing
  rw [List.append_assoc]
  refine hlist.bind ?_
  rw [findListed_of_eq_some h]
  exact hread.bind hfollowing

/-! ## Copying -/

/-- The calls of a copy without outage, in order: reads, the creation of the destination unless it
is there, and calls that add the tracks. -/
structure CopyCourse (source destination : String) (shuffle : Option Shuffle) (newId : IdSource)
    (library : Library) (stored target : StoredPlaylist) (reads : List Call) : Prop where
  /-- The tracks are those of the first playlist of the source's name. -/
  isSource : library.firstNamed? source = some stored
  /-- The destination is the first playlist of its name. -/
  isTarget : (library.withNamed newId destination).firstNamed? destination = some target
  /-- Reading changes nothing. -/
  reads_read : ∀ call ∈ reads, call.isWrite = false
  /-- The copy gets through. -/
  yields :
    (copy source destination shuffle).Yields newId library
      (Shuffle.reorder shuffle (library.tracksAt stored.playlist.id)).length
      ((library.withNamed newId destination).added target.playlist.id
        (chunks maxTracksPerCall
          (Shuffle.reorder shuffle (library.tracksAt stored.playlist.id))))
      (reads ++ creationCalls library destination ++
        (chunks maxTracksPerCall
          (Shuffle.reorder shuffle (library.tracksAt stored.playlist.id))).map
            (.add target.playlist.id))

/-- Without an outage copying a listed playlist takes its course. -/
theorem exists_copyCourse {source : String} {stored : StoredPlaylist} (destination : String)
    (shuffle : Option Shuffle) (newId : IdSource) (hsynced : library.IsSynced)
    (hsource : library.firstNamed? source = some stored) :
    ∃ target reads, CopyCourse source destination shuffle newId library stored target reads := by
  obtain ⟨reads, hreads, hyields⟩ := exists_reads_source hsource newId
  obtain ⟨target, htarget, hcreate⟩ := yields_findOrCreate newId library destination
  refine ⟨target, reads, hsource, htarget, hreads, ?_⟩
  have hadd := yields_addTracks newId (hsynced.withNamed newId destination)
    (Library.id_mem_of_firstNamed? htarget)
    (Shuffle.reorder shuffle (library.tracksAt stored.playlist.id))
  rw [List.append_assoc]
  refine hyields (hcreate.bind ?_)
  rw [← List.append_nil (List.map _ _)]
  exact hadd.bind (yields_done _ _)

/-- Copying a playlist that is not listed fails after the listing was read. -/
theorem exists_run_copy_of_eq_none {source : String} (destination : String)
    (shuffle : Option Shuffle) (newId : IdSource) (hsource : library.firstNamed? source = none) :
    ∃ reads : List Call, (∀ call ∈ reads, call.isWrite = false) ∧
      (copy source destination shuffle).run newId .none library =
        ⟨.error { cause := .playlistNotFound source }, library, reads⟩ :=
  exists_run_findListed_of_eq_none hsource _

/-! ## Shuffling -/

/-- The calls that replace the items of a playlist by pieces of tracks. -/
def rewriteCalls (id : String) : (pieces : List (List String)) → List Call
  | [] => []
  | first :: rest => .replace id first :: rest.map (.add id)

/-- The calls of a shuffle without outage, in order: reads, and calls that rewrite the playlist. -/
structure ShuffleCourse (name : String) (shuffle : Shuffle) (newId : IdSource) (library : Library)
    (stored : StoredPlaylist) (reads : List Call) : Prop where
  /-- The playlist is the first one of its name. -/
  isListed : library.firstNamed? name = some stored
  /-- Reading changes nothing. -/
  reads_read : ∀ call ∈ reads, call.isWrite = false
  /-- The shuffle gets through. -/
  yields :
    (randomize name shuffle).Yields newId library (library.tracksAt stored.playlist.id).length
      (library.rewritten stored.playlist.id
        (chunks maxTracksPerCall (shuffle.order (library.tracksAt stored.playlist.id))))
      (reads ++ rewriteCalls stored.playlist.id
        (chunks maxTracksPerCall (shuffle.order (library.tracksAt stored.playlist.id))))

/-- Without an outage shuffling a listed playlist takes its course. -/
theorem exists_shuffleCourse {name : String} {stored : StoredPlaylist} (shuffle : Shuffle)
    (newId : IdSource) (hsynced : library.IsSynced)
    (hname : library.firstNamed? name = some stored) :
    ∃ reads, ShuffleCourse name shuffle newId library stored reads := by
  obtain ⟨reads, hreads, hyields⟩ := exists_reads_source hname newId
  have hid := Library.id_mem_of_firstNamed? hname
  -- No piece is refused for its length, and together the pieces hold all tracks.
  have hpieces : ∀ piece ∈
      chunks maxTracksPerCall (shuffle.order (library.tracksAt stored.playlist.id)),
      piece.length ≤ maxTracksPerCall := fun _ hpiece => length_le_of_mem_chunks hpiece
  have hflatten := flatten_chunks maxTracksPerCall
    (shuffle.order (library.tracksAt stored.playlist.id))
  refine ⟨reads, hname, hreads, hyields ?_⟩
  cases hchunks : chunks maxTracksPerCall
      (shuffle.order (library.tracksAt stored.playlist.id)) with
  | nil =>
    -- A playlist without tracks is left alone.
    have hnone : (library.tracksAt stored.playlist.id).length = 0 := by
      rw [← (shuffle.perm _).length_eq, ← hflatten, hchunks]
      rfl
    rw [hnone]
    dsimp only
    exact yields_done library 0
  | cons first rest =>
    rw [hchunks, List.forall_mem_cons] at hpieces
    -- Replacing the items is answered, and the playlist is still there for the other pieces.
    have hanswer := Library.answer_replace newId hid hpieces.1
    have hids : (library.replaced stored.playlist.id first).ids = library.ids :=
      Library.ids_answer hanswer (by simp)
    have hadd := yields_addPieces newId (.addReordered name) (hsynced.answer hanswer)
      (hids ▸ hid) hpieces.2
    dsimp only
    rw [rewriteCalls, ← List.append_nil (List.map _ _)]
    exact (yields_call hanswer).bind (hadd.bind (yields_done _ _))

/-- Shuffling a playlist that is not listed fails after the listing was read. -/
theorem exists_run_randomize_of_eq_none {name : String} (shuffle : Shuffle) (newId : IdSource)
    (hname : library.firstNamed? name = none) :
    ∃ reads : List Call, (∀ call ∈ reads, call.isWrite = false) ∧
      (randomize name shuffle).run newId .none library =
        ⟨.error { cause := .playlistNotFound name }, library, reads⟩ :=
  exists_run_findListed_of_eq_none hname _

end PlaylistCurator.Curation
