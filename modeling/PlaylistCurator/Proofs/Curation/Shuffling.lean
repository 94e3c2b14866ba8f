import PlaylistCurator.Proofs.Curation.MergeMeaning
import PlaylistCurator.Proofs.Curation.Stages
import PlaylistCurator.Proofs.Service.Interruption

/-!
# What shuffling does

Shuffling puts plain items for the tracks of a playlist, in another order, in place of its items. So
all tracks stay, but items without a track do not, unless no item has one: such a playlist is left
alone. Main statements, for libraries whose ids are distinct:

* `isShuffled_run_randomize`: what becomes of the library;
* `leavesTracks_run_randomize`: what is left of the playlist's items.
-/

namespace PlaylistCurator.Curation

open Dialogue

variable {newId : IdSource} {outage : Outage} {library : Library} {name : String}
  {stored : StoredPlaylist}

/-! ## Without outage -/

/-- Rewriting a playlist in the pieces of some tracks puts these in place of its items. -/
theorem hasRewritten_chunks (hids : library.ids.Nodup) (hname : library.firstNamed? name = some stored)
    {tracks : List String} (htracks : tracks ≠ []) :
    library.HasRewritten stored tracks
      (library.rewritten stored.playlist.id (chunks maxTracksPerCall tracks)) := by
  have hpieces : chunks maxTracksPerCall tracks ≠ [] := by
    rw [chunks_of_ne_nil htracks]
    exact List.cons_ne_nil _ _
  have hrewritten :=
    Library.hasRewritten_rewritten hids (List.mem_of_find?_eq_some hname) hpieces
  rwa [flatten_chunks] at hrewritten

/-- What is recorded of rewriting a playlist in the pieces of some tracks. -/
theorem writes_rewritten_chunks (library : Library) (id : String) {tracks : List String}
    (htracks : tracks ≠ []) :
    (library.rewritten id (chunks maxTracksPerCall tracks)).writes =
      library.writes ++ .replace id (tracks.take maxTracksPerCall) ::
        (chunks maxTracksPerCall (tracks.drop maxTracksPerCall)).map (.add id) := by
  rw [chunks_of_ne_nil htracks]
  exact List.append_assoc library.writes [_] _

/-- Where ids are distinct, a shuffle without outage reads and then rewrites the playlist by its own
tracks. -/
theorem exists_run_randomize_of_eq_some (shuffle : Shuffle) (newId : IdSource)
    (hsynced : library.IsSynced) (hids : library.ids.Nodup)
    (hname : library.firstNamed? name = some stored) :
    ∃ reads : List Call, (∀ call ∈ reads, call.isWrite = false) ∧
      (randomize name shuffle).run newId .none library =
        ⟨.ok stored.trackIds.length,
          library.rewritten stored.playlist.id
            (chunks maxTracksPerCall (shuffle.order stored.trackIds)),
          reads ++ rewriteCalls stored.playlist.id
            (chunks maxTracksPerCall (shuffle.order stored.trackIds))⟩ := by
  obtain ⟨reads, hcourse⟩ := exists_shuffleCourse shuffle newId hsynced hname
  have hyields := hcourse.yields
  rw [Library.tracksAt_of_mem hids (List.mem_of_find?_eq_some hname)] at hyields
  exact ⟨reads, hcourse.reads_read, hyields⟩

/-- No tracks have no other order. -/
theorem Shuffle.order_eq_nil_iff (shuffle : Shuffle) {tracks : List String} :
    shuffle.order tracks = [] ↔ tracks = [] := by
  rw [← List.length_eq_zero_iff, (shuffle.perm tracks).length_eq, List.length_eq_zero_iff]

/-- What shuffling the playlist `stored`, the first one of its name, has done to a library. -/
structure IsShuffled (name : String) (shuffle : Shuffle) (library : Library)
    (stored : StoredPlaylist) (run : Run Nat) : Prop where
  /-- The result is the number of tracks. -/
  result_eq : run.result = .ok stored.trackIds.length
  /-- The playlist has its tracks in the other order. -/
  tracks_eq : run.library.trackIdsNamed? name = some (shuffle.order stored.trackIds)
  /-- No track is lost or added. -/
  perm : (shuffle.order stored.trackIds).Perm stored.trackIds
  /-- A playlist without tracks is left alone: nothing is written. -/
  of_eq_nil : stored.trackIds = [] →
    run.library = library ∧ ∀ call ∈ run.calls, call.isWrite = false
  /-- Otherwise plain items for the tracks stand in place of the playlist's own, and nothing else is
  changed. -/
  hasRewritten : stored.trackIds ≠ [] →
    library.HasRewritten stored (shuffle.order stored.trackIds) run.library
  /-- The items are replaced by as many tracks as a call may carry, and the other tracks are added. -/
  writes_eq : stored.trackIds ≠ [] → run.library.writes =
    library.writes ++
      .replace stored.playlist.id ((shuffle.order stored.trackIds).take maxTracksPerCall) ::
        (chunks maxTracksPerCall ((shuffle.order stored.trackIds).drop maxTracksPerCall)).map
          (.add stored.playlist.id)

/-- Without an outage a playlist that is listed is shuffled. -/
theorem isShuffled_run_randomize (shuffle : Shuffle) (newId : IdSource)
    (hreach : library.Reachable) (hids : library.ids.Nodup)
    (hname : library.firstNamed? name = some stored) :
    IsShuffled name shuffle library stored
      ((randomize name shuffle).run newId .none library) := by
  obtain ⟨reads, hreads, hrun⟩ :=
    exists_run_randomize_of_eq_some shuffle newId hreach.isSynced hids hname
  rw [hrun]
  by_cases hnone : stored.trackIds = []
  · -- There is nothing to put in another order, and there are no pieces to write.
    have horder := shuffle.order_eq_nil_iff.2 hnone
    refine
      { result_eq := rfl
        tracks_eq := ?_
        perm := shuffle.perm _
        of_eq_nil := fun _ => ⟨?_, ?_⟩
        hasRewritten := fun hsome => absurd hnone hsome
        writes_eq := fun hsome => absurd hnone hsome }
    · rw [horder, chunks, Library.trackIdsNamed?_eq_map]
      simp [Library.rewritten, hname, hnone]
    · rw [horder, chunks]
      rfl
    · rw [horder, chunks]
      simpa [rewriteCalls] using hreads
  · have horder := mt shuffle.order_eq_nil_iff.1 hnone
    have hrewritten := hasRewritten_chunks hids hname horder
    refine
      { result_eq := rfl
        tracks_eq := ?_
        perm := shuffle.perm _
        of_eq_nil := fun hempty => absurd hempty hnone
        hasRewritten := fun _ => hrewritten
        writes_eq := fun _ => writes_rewritten_chunks library stored.playlist.id horder }
    rw [Library.trackIdsNamed?_eq_map, hrewritten.firstNamed?_eq hname, Option.map_some,
      StoredPlaylist.trackIds_withTracks]

/-- The tracks of a playlist of `mixLibrary`, of which one is there twice, are put in another
order. -/
theorem isShuffled_run_mixLibrary :
    mixLibrary.Reachable ∧ mixLibrary.ids.Nodup ∧
      ∃ mix, mixLibrary.firstNamed? "Daily Mix 1" = some mix ∧
        IsShuffled "Daily Mix 1" (.ofPositions fun _ => [1]) mixLibrary mix
          ((randomize "Daily Mix 1" (.ofPositions fun _ => [1])).run (.ofCandidate "new") .none
            mixLibrary) ∧
        ((randomize "Daily Mix 1" (.ofPositions fun _ => [1])).run (.ofCandidate "new") .none
          mixLibrary).library.trackIdsNamed? "Daily Mix 1" = some ["b", "a", "a"] :=
  ⟨.ofSnapshot _, by decide, _, rfl,
    isShuffled_run_randomize _ _ (.ofSnapshot _) (by decide) rfl, by decide +kernel⟩

/-! ## Items without a track -/

/-- What shuffling leaves of the items of the playlist `stored`, which is `after` then. -/
structure LeavesTracks (shuffle : Shuffle) (stored after : StoredPlaylist) : Prop where
  /-- If no item has a track, all items are left. -/
  of_eq_nil : (∀ item ∈ stored.items, item.trackId? = none) → after.items = stored.items
  /-- Otherwise there is left a plain item for each item with a track. -/
  of_ne_nil : (∃ item ∈ stored.items, item.trackId?.isSome) →
    after.items = (shuffle.order stored.trackIds).map Item.ofTrack ∧
      after.items.length = stored.items.countP (·.trackId?.isSome)
  /-- There are as many items as before exactly if all of them or none have a track. -/
  length_eq_iff : after.items.length = stored.items.length ↔
    (∀ item ∈ stored.items, item.trackId?.isSome) ∨ ∀ item ∈ stored.items, item.trackId? = none

/-- A playlist has no tracks exactly if no item has one. -/
theorem trackIds_eq_nil_iff :
    stored.trackIds = [] ↔ ∀ item ∈ stored.items, item.trackId? = none :=
  List.filterMap_eq_nil_iff

/-- A playlist that has been left alone has what shuffling leaves, if it has no tracks. -/
theorem leavesTracks_self (shuffle : Shuffle) (hnone : stored.trackIds = []) :
    LeavesTracks shuffle stored stored := by
  rw [trackIds_eq_nil_iff] at hnone
  refine
    { of_eq_nil := fun _ => rfl
      of_ne_nil := ?_
      length_eq_iff := iff_of_true rfl (.inr hnone) }
  rintro ⟨item, hitem, hsome⟩
  simp [hnone item hitem] at hsome

/-- A playlist that has been rewritten by its tracks has what shuffling leaves, if there are any. -/
theorem leavesTracks_withTracks (shuffle : Shuffle) (hsome : stored.trackIds ≠ []) :
    LeavesTracks shuffle stored (stored.withTracks (shuffle.order stored.trackIds)) := by
  have hlength : (stored.withTracks (shuffle.order stored.trackIds)).items.length =
      stored.trackIds.length := by
    rw [StoredPlaylist.items_withTracks, List.length_map, (shuffle.perm _).length_eq]
  refine
    { of_eq_nil := fun hnone => absurd (trackIds_eq_nil_iff.2 hnone) hsome
      of_ne_nil := fun _ => ⟨rfl, hlength.trans List.length_filterMap_eq_countP⟩
      length_eq_iff := ?_ }
  rw [hlength, ← trackIds_eq_nil_iff, or_iff_left hsome]
  exact List.filterMap_length_eq_length

/-- A shuffle that succeeds leaves the tracks of the playlist and drops the items that have none,
unless all items are such. -/
theorem leavesTracks_run_randomize (shuffle : Shuffle) (hreach : library.Reachable)
    (hids : library.ids.Nodup) {count : Nat}
    (hok : ((randomize name shuffle).run newId outage library).result = .ok count) :
    ∃ stored after, library.firstNamed? name = some stored ∧
      ((randomize name shuffle).run newId outage library).library.firstNamed? name = some after ∧
      LeavesTracks shuffle stored after := by
  have hfree := run_eq_of_result_eq_ok hok
  rw [hfree] at hok ⊢
  cases hname : library.firstNamed? name with
  | none =>
    obtain ⟨reads, -, hrun⟩ := exists_run_randomize_of_eq_none shuffle newId hname
    rw [hrun] at hok
    cases hok
  | some stored =>
    obtain ⟨reads, -, hrun⟩ :=
      exists_run_randomize_of_eq_some shuffle newId hreach.isSynced hids hname
    rw [hrun]
    by_cases hnone : stored.trackIds = []
    · rw [shuffle.order_eq_nil_iff.2 hnone, chunks]
      exact ⟨stored, stored, rfl, hname, leavesTracks_self shuffle hnone⟩
    · have hrewritten := hasRewritten_chunks hids hname (mt shuffle.order_eq_nil_iff.1 hnone)
      exact ⟨stored, _, rfl, hrewritten.firstNamed?_eq hname, leavesTracks_withTracks shuffle hnone⟩

/-- Of the four items of a playlist of `mixLibrary` three are left. -/
theorem leavesTracks_run_mixLibrary :
    mixLibrary.Reachable ∧ mixLibrary.ids.Nodup ∧
      ((randomize "Daily Mix 1" .still).run (.ofCandidate "new") .none mixLibrary).result = .ok 3 ∧
      ∃ mix after, mixLibrary.firstNamed? "Daily Mix 1" = some mix ∧
        ((randomize "Daily Mix 1" .still).run (.ofCandidate "new") .none
          mixLibrary).library.firstNamed? "Daily Mix 1" = some after ∧
        LeavesTracks .still mix after := by
  have hok : ((randomize "Daily Mix 1" .still).run (.ofCandidate "new") .none
      mixLibrary).result = .ok 3 := by decide +kernel
  exact ⟨.ofSnapshot _, by decide, hok,
    leavesTracks_run_randomize .still (.ofSnapshot _) (by decide) hok⟩

/-- The playlist of `mixLibrary` loses its item without a track. -/
theorem length_items_decreases_on_mixLibrary :
    mixLibrary.ids.Nodup ∧
      ((randomize "Daily Mix 1" .still).run (.ofCandidate "new") .none mixLibrary).result = .ok 3 ∧
      (mixLibrary.firstNamed? "Daily Mix 1").map (·.items.length) = some 4 ∧
      (((randomize "Daily Mix 1" .still).run (.ofCandidate "new") .none
        mixLibrary).library.firstNamed? "Daily Mix 1").map (·.items.length) = some 3 := by
  decide +kernel

end PlaylistCurator.Curation
