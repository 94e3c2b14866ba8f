import PlaylistCurator.Proofs.Curation.StruckCall

/-!
# What copying does

Copying adds the tracks of a playlist at the end of another one, or of the same. What is added was
read before the first write, so that it does not matter whether the two are different. Main
statement, for libraries whose ids are distinct:

* `isCopied_run_copy`: what becomes of the library.
-/

namespace PlaylistCurator.Curation

open Dialogue

variable {newId : IdSource} {library : Library} {source : String} {stored : StoredPlaylist}

/-- With a shuffle or without one, no track is lost or added. -/
theorem Shuffle.reorder_perm (shuffle : Option Shuffle) (tracks : List String) :
    (Shuffle.reorder shuffle tracks).Perm tracks := by
  cases shuffle with
  | none => exact .refl _
  | some shuffle => exact shuffle.perm tracks

/-- What copying the playlist `stored` has done to a library. -/
structure IsCopied (destination : String) (shuffle : Option Shuffle) (library : Library)
    (stored : StoredPlaylist) (run : Run Nat) : Prop where
  /-- The result is the number of tracks. -/
  result_eq : run.result = .ok stored.trackIds.length
  /-- The first playlist of the destination's name has its tracks, if there was one, and after them
  those of the source. -/
  tracks_eq : run.library.trackIdsNamed? destination = some
    ((library.trackIdsNamed? destination).getD [] ++ Shuffle.reorder shuffle stored.trackIds)
  /-- No track is lost or added by the shuffle. -/
  perm : (Shuffle.reorder shuffle stored.trackIds).Perm stored.trackIds
  /-- If there was a playlist of the destination's name, the first of them stands in its place with
  plain items for the tracks after its own; the other playlists are the same. -/
  of_eq_some : ∀ target, library.firstNamed? destination = some target →
    run.library.playlists = library.playlists.replace target
      (target.withAdded (Shuffle.reorder shuffle stored.trackIds))
  /-- If there was none, a private one of the user's stands last with plain items for the tracks; the
  other playlists are the same. -/
  of_eq_none : library.firstNamed? destination = none → ∃ id ∉ library.ids,
    run.library.playlists = library.playlists ++
      [StoredPlaylist.withAdded
        { playlist := Library.newPlaylist id library.snapshot.userId destination false }
        (Shuffle.reorder shuffle stored.trackIds)]
  /-- The user stays the same. -/
  userId_eq : run.library.snapshot.userId = library.snapshot.userId
  /-- The page size stays the same. -/
  pageSize_eq : run.library.pageSize = library.pageSize

/-- Without an outage a playlist that is listed is copied. -/
theorem isCopied_run_copy (destination : String) (shuffle : Option Shuffle) (newId : IdSource)
    (hreach : library.Reachable) (hids : library.ids.Nodup)
    (hsource : library.firstNamed? source = some stored) :
    IsCopied destination shuffle library stored
      ((copy source destination shuffle).run newId .none library) := by
  obtain ⟨target, reads, hcourse⟩ :=
    exists_copyCourse destination shuffle newId hreach.isSynced hsource
  have hyields := hcourse.yields
  rw [Library.tracksAt_of_mem hids (List.mem_of_find?_eq_some hsource)] at hyields
  -- The pieces that are added to the destination hold the tracks of the source.
  have hadded := Library.hasAdded_added hids hcourse.isTarget
    (chunks maxTracksPerCall (Shuffle.reorder shuffle stored.trackIds))
  rw [flatten_chunks] at hadded
  rw [hyields]
  refine
    { result_eq := congrArg Except.ok (Shuffle.reorder_perm shuffle stored.trackIds).length_eq
      tracks_eq := ?_
      perm := Shuffle.reorder_perm shuffle stored.trackIds
      of_eq_some := fun _ htarget => hadded.playlists_eq_replace htarget
      of_eq_none := fun hnone =>
        ⟨(newId library.ids).1, (newId library.ids).2, hadded.playlists_eq_append hnone⟩
      userId_eq := hadded.userId_eq
      pageSize_eq := hadded.pageSize_eq }
  rw [Library.trackIdsNamed?_eq_map, Library.trackIdsNamed?_eq_map, hadded.firstNamed?_eq]
  cases hdestination : library.firstNamed? destination with
  | some target =>
    rw [Library.withNamed_of_isSome (by simp [hdestination]), hdestination]
    simp
  | none =>
    -- A created playlist has no tracks of its own.
    rw [Library.withNamed_of_eq_none hdestination, Library.firstNamed?_withNew hdestination,
      Option.map_some, Option.map_some, StoredPlaylist.trackIds_withAdded]
    rfl

/-- The 101 tracks of the playlist of `longLibrary` are copied to its own end, in two calls. -/
theorem isCopied_run_longLibrary :
    longLibrary.Reachable ∧ longLibrary.ids.Nodup ∧
      ∃ long, longLibrary.firstNamed? "Long" = some long ∧
        IsCopied "Long" none longLibrary long
          ((copy "Long" "Long" none).run (.ofCandidate "new") .none longLibrary) ∧
        ((copy "Long" "Long" none).run (.ofCandidate "new") .none
          longLibrary).library.trackIdsNamed? "Long" = some (List.replicate 202 "t") := by
  have hids : longLibrary.ids.Nodup := by decide +kernel
  exact ⟨.ofSnapshot _, hids, _, rfl, isCopied_run_copy "Long" none _ (.ofSnapshot _) hids rfl,
    by decide +kernel⟩

end PlaylistCurator.Curation
