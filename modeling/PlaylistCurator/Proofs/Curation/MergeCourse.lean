import PlaylistCurator.Curation.Merge
import PlaylistCurator.Proofs.Curation.Reading

/-!
# The course of a merge without outage

A merge lists the playlists, finds or creates its target, reads all tracks that matter and then
adds what is new. This module says so as one equation on runs, for every library with right track
counts, whether its ids and names are distinct or not:

* `MergePlan.report`: what a merge reports, computed from the library;
* `exists_mergeCourse`: how the merge goes, with its calls and the library that it leaves.
-/

namespace PlaylistCurator.Curation

open Dialogue

variable {newId : IdSource} {library : Library}

namespace MergePlan

variable (plan : MergePlan)

/-- The tracks of the playlists with a role, a list for each of them. -/
def tracksWithRole (role : Role) (library : Library) : List (List String) :=
  (plan.withRole role library.listing).map fun playlist => library.tracksAt playlist.id

/-- The tracks that a merge adds to the playlist with an id. -/
def batch (library : Library) (targetId : String) : List String :=
  appendBatch (plan.tracksWithRole .source library) (library.tracksAt targetId)
    (plan.tracksWithRole .exclusion library)

/-- What a merge into the playlist with an id reports. -/
def report (library : Library) (targetId : String) : MergeReport where
  targetId := targetId
  sourceCount := (plan.withRole .source library.listing).length
  candidateCount := (plan.tracksWithRole .source library).flatten.length
  added := plan.batch library targetId
  warnings :=
    if plan.withRole .source library.listing = [] then [.noSources plan.sourcePrefix]
    else if plan.batch library targetId = [] then [.nothingToAdd]
    else []

/-- Without sources there is nothing to add. -/
theorem batch_of_eq_nil (h : plan.withRole .source library.listing = []) (targetId : String) :
    plan.batch library targetId = [] := by
  rw [batch, tracksWithRole, h]
  rfl

/-- The report of a merge without sources. -/
theorem report_of_eq_nil (h : plan.withRole .source library.listing = []) (targetId : String) :
    plan.report library targetId =
      { targetId, sourceCount := 0, warnings := [.noSources plan.sourcePrefix] } := by
  simp [report, tracksWithRole, h, plan.batch_of_eq_nil h]

/-- The report of a merge with sources. -/
theorem report_of_ne_nil (h : plan.withRole .source library.listing ≠ []) (targetId : String) :
    plan.report library targetId =
      { targetId
        sourceCount := (plan.withRole .source library.listing).length
        candidateCount := (plan.tracksWithRole .source library).flatten.length
        added := plan.batch library targetId
        warnings := if plan.batch library targetId = [] then [.nothingToAdd] else [] } := by
  rw [report, if_neg h]

/-- A playlist with the name of the target is the target. -/
theorem role_of_name_eq {playlist : Playlist} (h : playlist.name = some plan.targetName) :
    plan.role playlist = .target := by
  simp [role, h]

/-- The listed playlists with a role are the stored ones with it. -/
theorem withRole_listing (role : Role) (library : Library) :
    plan.withRole role library.listing =
      (library.playlists.filter (plan.role ·.playlist = role)).map (·.playlist) := by
  rw [withRole, Library.listing, List.filter_map]
  rfl

/-- Creating the target changes neither sources nor exclusions. -/
theorem filter_role_withNamed {role : Role} (hrole : role ≠ .target) (newId : IdSource)
    (library : Library) :
    (library.withNamed newId plan.targetName).playlists.filter (plan.role ·.playlist = role) =
      library.playlists.filter (plan.role ·.playlist = role) := by
  -- The created playlist has the name of the target, and so no other role.
  refine Library.filter_withNamed (fun stored hname => ?_) newId
  rw [plan.role_of_name_eq hname]
  exact decide_eq_false hrole.symm

/-- Creating the target changes neither sources nor exclusions of the listing. -/
theorem withRole_listing_withNamed {role : Role} (hrole : role ≠ .target) (newId : IdSource)
    (library : Library) :
    plan.withRole role (library.withNamed newId plan.targetName).listing =
      plan.withRole role library.listing := by
  rw [withRole_listing, filter_role_withNamed plan hrole, withRole_listing]

/-- The playlists with a role are playlists of the library. -/
theorem id_mem_of_mem_withRole {role : Role} {playlist : Playlist}
    (h : playlist ∈ plan.withRole role library.listing) : playlist.id ∈ library.ids := by
  obtain ⟨stored, hstored, rfl⟩ := List.mem_map.1 (List.mem_filter.1 h).1
  exact List.mem_map.2 ⟨stored, hstored, rfl⟩

/-- A track of the playlists with a role is a track of one of them. -/
theorem mem_flatten_tracksWithRole {role : Role} {track : String} :
    track ∈ (plan.tracksWithRole role library).flatten ↔
      ∃ id ∈ (plan.withRole role library.listing).map (·.id), track ∈ library.tracksAt id := by
  simp only [tracksWithRole, List.mem_flatten, List.mem_map]
  constructor
  · rintro ⟨_, ⟨playlist, hplaylist, rfl⟩, htrack⟩
    exact ⟨playlist.id, ⟨playlist, hplaylist, rfl⟩, htrack⟩
  · rintro ⟨_, ⟨playlist, hplaylist, rfl⟩, htrack⟩
    exact ⟨_, ⟨playlist, hplaylist, rfl⟩, htrack⟩

/-- Reading the tracks of all playlists with a role. -/
theorem reads_tracksWithRole (newId : IdSource) (role : Role) (library : Library) :
    ((plan.withRole role library.listing).mapM (tracksOf ·.id)).Reads newId library
      (plan.tracksWithRole role library) :=
  Reads.mapM fun _ hplaylist => reads_tracksOf newId (plan.id_mem_of_mem_withRole hplaylist)

end MergePlan

/-- The calls of a merge without outage, in order: reads of the listing, the creation of the target
unless it is there, reads of tracks, and calls that add the new tracks. -/
structure MergeCourse (plan : MergePlan) (newId : IdSource) (library : Library)
    (target : StoredPlaylist) (listingReads trackReads : List Call) : Prop where
  /-- The target is the first playlist of its name. -/
  isTarget :
    (library.withNamed newId plan.targetName).firstNamed? plan.targetName = some target
  /-- Reading the listing changes nothing. -/
  listing_read : ∀ call ∈ listingReads, call.isWrite = false
  /-- Reading tracks changes nothing. -/
  tracks_read : ∀ call ∈ trackReads, call.isWrite = false
  /-- Tracks are read unless there are no sources. -/
  trackReads_eq_nil_iff : trackReads = [] ↔ plan.withRole .source library.listing = []
  /-- The merge gets through. -/
  yields :
    (merge plan).Yields newId library
      (plan.report (library.withNamed newId plan.targetName) target.playlist.id)
      ((library.withNamed newId plan.targetName).added target.playlist.id
        (chunks maxTracksPerCall
          (plan.batch (library.withNamed newId plan.targetName) target.playlist.id)))
      (listingReads ++ creationCalls library plan.targetName ++ trackReads ++
        (chunks maxTracksPerCall (plan.batch (library.withNamed newId plan.targetName)
          target.playlist.id)).map (.add target.playlist.id))

/-- Adding the batch, or warning that there is none, is the end of a merge. -/
theorem yields_addBatch (newId : IdSource) (hsynced : library.IsSynced) {targetId : String}
    (hid : targetId ∈ library.ids) (sourceCount candidateCount : Nat) (batch : List String) :
    (if batch.isEmpty then
        return { targetId, sourceCount, candidateCount, warnings := [.nothingToAdd] }
      else do
        addTracks targetId batch
        return { targetId, sourceCount, candidateCount, added := batch } :
      Dialogue MergeReport).Yields newId library
      { targetId, sourceCount, candidateCount, added := batch,
        warnings := if batch = [] then [.nothingToAdd] else [] }
      (library.added targetId (chunks maxTracksPerCall batch))
      ((chunks maxTracksPerCall batch).map (.add targetId)) := by
  cases batch with
  | nil =>
    rw [chunks, Library.added_nil hsynced]
    exact yields_done library _
  | cons track rest =>
    have hadd := yields_addTracks newId hsynced hid (track :: rest)
    rw [← List.append_nil (List.map _ _)]
    exact hadd.bind (yields_done _ _)

/-- Without an outage a merge takes its course. -/
theorem exists_mergeCourse (plan : MergePlan) (newId : IdSource) (hsynced : library.IsSynced) :
    ∃ target listingReads trackReads,
      MergeCourse plan newId library target listingReads trackReads := by
  obtain ⟨listingReads, hlisting, hlist⟩ := reads_allPlaylists newId library
  obtain ⟨target, htarget, hcreate⟩ := yields_findOrCreate newId library plan.targetName
  have hsources : plan.withRole .source (library.withNamed newId plan.targetName).listing =
      plan.withRole .source library.listing :=
    plan.withRole_listing_withNamed (by decide) newId library
  have hexclusions : plan.withRole .exclusion (library.withNamed newId plan.targetName).listing =
      plan.withRole .exclusion library.listing :=
    plan.withRole_listing_withNamed (by decide) newId library
  have hbase := hsynced.withNamed newId plan.targetName
  have hid := Library.id_mem_of_firstNamed? htarget
  by_cases hnone : plan.withRole .source library.listing = []
  · -- Without sources the merge is over once there is a target.
    refine ⟨target, listingReads, [], htarget, hlisting, by simp, by simp [hnone], ?_⟩
    generalize library.withNamed newId plan.targetName = base at *
    have hnoneBase := hsources.trans hnone
    rw [plan.batch_of_eq_nil hnoneBase, plan.report_of_eq_nil hnoneBase, chunks,
      Library.added_nil hbase, List.map_nil, List.append_nil, List.append_assoc]
    refine hlist.bind (hcreate.bind ?_)
    simp only [hnone, List.isEmpty_nil, ↓reduceIte, List.length_nil]
    exact yields_done base _
  · -- Otherwise tracks are read, of the target, the exclusions and the sources.
    obtain ⟨targetReads, htargetReads, hreadTarget⟩ := reads_tracksOf newId hid
    obtain ⟨exclusionReads, hexclusionReads, hreadExclusions⟩ :=
      plan.reads_tracksWithRole newId .exclusion (library.withNamed newId plan.targetName)
    obtain ⟨sourceReads, hsourceReads, hreadSources⟩ :=
      plan.reads_tracksWithRole newId .source (library.withNamed newId plan.targetName)
    have hne := calls_ne_nil_of_yields_tracksOf hreadTarget
    refine ⟨target, listingReads, targetReads ++ (exclusionReads ++ sourceReads), htarget,
      hlisting, ?_, by simp [hnone, hne], ?_⟩
    · simp only [List.forall_mem_append]
      exact ⟨htargetReads, hexclusionReads, hsourceReads⟩
    · generalize library.withNamed newId plan.targetName = base at *
      rw [plan.report_of_ne_nil (by rwa [hsources]), hsources]
      rw [hexclusions] at hreadExclusions
      rw [hsources] at hreadSources
      have hsome : (plan.withRole .source library.listing).isEmpty = false := by simpa using hnone
      simp only [List.append_assoc]
      refine hlist.bind (hcreate.bind ?_)
      simp only [hsome, Bool.false_eq_true, ↓reduceIte]
      refine hreadTarget.bind (hreadExclusions.bind (hreadSources.bind ?_))
      -- What is left to do after the reads is to add the batch.
      exact yields_addBatch newId hbase hid _ _ (plan.batch base target.playlist.id)

end PlaylistCurator.Curation
