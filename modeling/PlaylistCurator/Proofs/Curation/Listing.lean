import Mathlib.Data.List.Forall2
import PlaylistCurator.Proofs.Curation.StruckCall

/-!
# What listing yields

Listing reads both expressions, fetches the playlists, filters them and sorts them, in this order:
an expression that is refused ends it before anything is asked of the service, and a call that does
not get through ends it for the reason of the call. It changes nothing.

* `Record.Shows`: what the record of a stored playlist says;
* `ListsRecords`, `listsRecords_run`: what becomes of a run of the command.
-/

namespace PlaylistCurator

/-! ## Records of playlists -/

/-- A record shows a stored playlist. -/
structure Record.Shows (record : Record) (stored : StoredPlaylist) : Prop where
  /-- It has the id of the playlist. -/
  id_eq : record.id = stored.playlist.id
  /-- Its name is that of the playlist, if this has one. -/
  name_eq : record.get .name = stored.playlist.name.map .text
  /-- Its description is that of the playlist, if this has one. -/
  description_eq : record.get .description = stored.playlist.description.map .text
  /-- Its owner is the owner's id. -/
  owner_eq : record.get .owner = some (.text stored.playlist.owner.id)
  /-- Its size is the track count of the playlist, which is the number of its items up to the largest
  number that a track count can say. -/
  size_eq : ∃ size, record.get .size = some (.number size) ∧
    size.toInt = stored.playlist.tracks.total.toNat ∧
    size.toInt = min stored.items.length (UInt32.size - 1)

/-- Where track counts are right, the record that is made of a listed playlist shows the stored
one. -/
theorem Library.IsSynced.shows_toRecord {library : Library} (h : library.IsSynced)
    {stored : StoredPlaylist} (hstored : stored ∈ library.playlists) :
    stored.playlist.toRecord.Shows stored where
  id_eq := rfl
  name_eq := rfl
  description_eq := rfl
  owner_eq := rfl
  size_eq := by
    refine ⟨_, rfl, toInt_ofNat_total _, ?_⟩
    rw [toInt_ofNat_total]
    exact congrArg Nat.cast (h.toNat_total hstored)

namespace Curation

open Dialogue

variable {newId : IdSource} {outage : Outage} {library : Library} {filter sort : Option String}

/-! ## Runs of the command -/

/-- What listing with a filter and a sort expression comes to under an outage. -/
structure ListsRecords (filter sort : Option String) (outage : Outage) (library : Library)
    (run : Run (List Record)) : Prop where
  /-- A filter expression that is refused is the failure, and no call is made. -/
  refusesFilter : ∀ error, FilterSet.parse filter = .error error →
    run = ⟨.error { cause := .query error }, library, []⟩
  /-- So is a sort expression that is refused, if the filter expression is not. -/
  refusesSort : ∀ filters error, FilterSet.parse filter = .ok filters →
    SortKey.parse sort = .error error →
    run = ⟨.error { cause := .query error }, library, []⟩
  /-- Otherwise, if no call is struck, the result are the records of all stored playlists, filtered
  and then sorted. -/
  lists : ∀ filters keys, FilterSet.parse filter = .ok filters → SortKey.parse sort = .ok keys →
    outage.Spares [] run.calls →
    ∃ records passed listed, records.Forall₂ Record.Shows library.playlists ∧
      filterRecords records filter = .ok passed ∧ sortRecords passed sort = .ok listed ∧
      run.result = .ok listed
  /-- A call that is struck is the last one, and its reason is that of the failure. -/
  stops : ∀ before call after reason, run.calls = before ++ call :: after →
    outage before call = some reason →
    after = [] ∧ ∃ during, run.result = .error ⟨.callFailed reason, during⟩
  /-- No call is a write. -/
  reads : ∀ call ∈ run.calls, call.isWrite = false
  /-- The library stays as it is. -/
  library_eq : run.library = library

/-- Whatever the outage, listing leaves the library as it is. -/
theorem library_run_list (filter sort : Option String) (newId : IdSource) (outage : Outage)
    (library : Library) : ((list filter sort).run newId outage library).library = library := by
  rcases (list filter sort).run_eq_or_interrupted newId outage library with
    ⟨-, heq⟩ | ⟨before, call, reason, hcut⟩
  · rw [heq, library_run_eq_replay]
    exact Library.replay_of_forall_isWrite_eq_false newId
      (isWrite_eq_false_of_mem_calls_run_list filter sort)
  · exact library_eq_of_isInterrupted_list hcut

/-- Listing is reading the expressions, fetching the playlists, filtering and sorting. -/
theorem listsRecords_run (filter sort : Option String) (newId : IdSource) (outage : Outage)
    (hreach : library.Reachable) :
    ListsRecords filter sort outage library ((list filter sort).run newId outage library) where
  refusesFilter := fun _ hfilter => run_list_of_filter_eq_error hfilter sort newId outage library
  refusesSort := fun _ _ hfilter hsort =>
    run_list_of_sort_eq_error hfilter hsort newId outage library
  lists := by
    intro filters keys hfilter hsort hspares
    obtain ⟨calls, -, hyields⟩ := reads_list hfilter hsort newId library
    rw [run_eq_of_spares hspares, hyields]
    refine ⟨library.listing.map Playlist.toRecord,
      filters.narrow (library.listing.map Playlist.toRecord), _, ?_, ?_, ?_, rfl⟩
    · rw [Library.listing, List.map_map, List.forall₂_map_left_iff, List.forall₂_same]
      exact fun stored hstored => hreach.isSynced.shows_toRecord hstored
    · rw [filterRecords, hfilter]
      rfl
    · rw [sortRecords, hsort]
      rfl
  stops := by
    intro before call after reason hcalls hstruck
    obtain ⟨hlast, hcut⟩ := interrupted_of_struck hcalls hstruck
    exact ⟨hlast, hcut.result_eq⟩
  reads := fun call hcall => isWrite_eq_false_of_mem_calls_run_list filter sort call
    (((list filter sort).isPrefix_calls_run library).subset hcall)
  library_eq := library_run_list filter sort newId outage library

/-- An outage of the call after the second page of two playlists. -/
def secondPageOutage : Outage :=
  .ofFaults [⟨fun call => call == .playlistsAfter 2 none, 1, "offline"⟩]

/-- The run that lists the daily mixes of `mixLibrary` with two playlists on a page until asking after
the second page fails. -/
def cutListing : Run (List Record) :=
  (list (some "n:daily") (some "size:desc")).run (.ofCandidate "new") secondPageOutage
    (mixLibrary.withPageSize 2)

/-- With all playlists on a page the daily mixes of `mixLibrary` are listed; with two on a page the
listing stops when asking after the second page fails. -/
theorem listsRecords_run_mixLibrary :
    mixLibrary.Reachable ∧
      ListsRecords (some "n:daily") (some "size:desc") secondPageOutage mixLibrary
        ((list (some "n:daily") (some "size:desc")).run (.ofCandidate "new") secondPageOutage
          mixLibrary) ∧
      ((list (some "n:daily") (some "size:desc")).run (.ofCandidate "new") secondPageOutage
        mixLibrary).result.toOption.isSome ∧
      ListsRecords (some "n:daily") (some "size:desc") secondPageOutage
        (mixLibrary.withPageSize 2) cutListing ∧
      cutListing.calls = [.playlists, .playlistsAfter 0 (some 2), .playlistsAfter 2 none] ∧
      secondPageOutage [.playlists, .playlistsAfter 0 (some 2)] (.playlistsAfter 2 none) =
        some "offline" := by
  have hreach : mixLibrary.Reachable := .ofSnapshot _
  exact ⟨hreach, listsRecords_run _ _ _ _ hreach, by decide +kernel,
    listsRecords_run _ _ _ _ (hreach.withPageSize 2), by decide +kernel⟩

end Curation

end PlaylistCurator
