import PlaylistCurator.Curation.Job
import PlaylistCurator.Proofs.Curation.Batch
import PlaylistCurator.Proofs.Curation.MergeCourse

/-!
# What a merge does

For a library whose ids are distinct the course of a merge can be said in terms of the stored
playlists alone: which of them are sources and exclusions (`MergePlan.IsSource`,
`MergePlan.IsExclusion`), which tracks are new (`MergePlan.newTracks`), and what becomes of the
library (`MergePlan.IsMerge`).
-/

namespace PlaylistCurator.Curation

open Dialogue

variable {newId : IdSource} {library : Library}

namespace MergePlan

variable (plan : MergePlan)

/-- A stored playlist is a source: it has a name, which is not the target's and starts with the
prefix of the sources. -/
def IsSource (stored : StoredPlaylist) : Prop :=
  ∃ name ∈ stored.playlist.name,
    name ≠ plan.targetName ∧ plan.sourcePrefix.toList <+: name.toList

/-- A stored playlist is an exclusion: it has a name, which is neither the target's nor that of a
source and starts with the prefix of the exclusions. -/
def IsExclusion (stored : StoredPlaylist) : Prop :=
  ∃ name ∈ stored.playlist.name,
    name ≠ plan.targetName ∧ ¬ plan.sourcePrefix.toList <+: name.toList ∧
      plan.exclusionPrefix.toList <+: name.toList

theorem role_eq_source_iff (stored : StoredPlaylist) :
    plan.role stored.playlist = .source ↔ plan.IsSource stored := by
  unfold role IsSource startsWith
  cases stored.playlist.name with
  | none => simp
  | some name =>
    by_cases hname : name = plan.targetName
    · simp [hname]
    · simp [hname]
      grind

theorem role_eq_exclusion_iff (stored : StoredPlaylist) :
    plan.role stored.playlist = .exclusion ↔ plan.IsExclusion stored := by
  unfold role IsExclusion startsWith
  cases stored.playlist.name with
  | none => simp
  | some name =>
    by_cases hname : name = plan.targetName
    · simp [hname]
    · simp [hname]
      grind

instance : DecidablePred plan.IsSource := fun stored =>
  decidable_of_iff _ (plan.role_eq_source_iff stored)

instance : DecidablePred plan.IsExclusion := fun stored =>
  decidable_of_iff _ (plan.role_eq_exclusion_iff stored)

/-- The sources of a merge in the order of the library. -/
def sources (library : Library) : List StoredPlaylist :=
  library.playlists.filter (plan.IsSource ·)

/-- The tracks of the sources, in the order of sources and items and each where it is first met,
leaving out those that are present already or in an exclusion. -/
def newTracks (library : Library) (present : List String) : List String :=
  (((plan.sources library).flatMap StoredPlaylist.trackIds).filter fun track =>
    track ∉ present ∧
      ∀ stored ∈ library.playlists, plan.IsExclusion stored → track ∉ stored.trackIds).eraseDups

/-- The new tracks are those of the sources that are neither present nor in an exclusion. -/
theorem mem_newTracks {library : Library} {present : List String} {track : String} :
    track ∈ plan.newTracks library present ↔
      (∃ stored ∈ library.playlists, plan.IsSource stored ∧ track ∈ stored.trackIds) ∧
        track ∉ present ∧
          ∀ stored ∈ library.playlists, plan.IsExclusion stored → track ∉ stored.trackIds := by
  simp only [newTracks, sources, List.mem_eraseDups, List.mem_filter, List.mem_flatMap,
    decide_eq_true_eq, and_assoc]

/-- What a merge into `target` does to a library and reports. -/
structure IsMerge (newId : IdSource) (library : Library) (target : StoredPlaylist)
    (report : MergeReport) (after : Library) : Prop where
  /-- The target is the first playlist of its name, or one that is created. -/
  isTarget : (library.withNamed newId plan.targetName).firstNamed? plan.targetName = some target
  /-- The report names the target. -/
  targetId_eq : report.targetId = target.playlist.id
  /-- The report counts the sources. -/
  sourceCount_eq : report.sourceCount = (plan.sources library).length
  /-- The report counts the tracks of the sources, repeats included. -/
  candidateCount_eq :
    report.candidateCount = ((plan.sources library).flatMap StoredPlaylist.trackIds).length
  /-- The tracks of the sources that are new are added. -/
  added_eq : report.added = plan.newTracks library target.trackIds
  /-- The report warns if nothing was added. -/
  warnings_eq : report.warnings =
    if plan.sources library = [] then [.noSources plan.sourcePrefix]
    else if report.added = [] then [.nothingToAdd]
    else []
  /-- The added tracks stand at the end of the target; nothing else is changed. -/
  hasAdded : library.HasAdded newId plan.targetName report.added after
  /-- The target has the items that it had and then those of the added tracks. -/
  target_after : after.firstNamed? plan.targetName = some (target.withAdded report.added)
  /-- The track counts count the items. -/
  total_eq : ∀ stored ∈ after.playlists,
    stored.playlist.tracks.total.toNat = min stored.items.length (UInt32.size - 1)
  /-- The tracks are added in calls of at most `maxTracksPerCall` tracks. -/
  writes_eq : after.writes = (library.withNamed newId plan.targetName).writes ++
    (chunks maxTracksPerCall report.added).map (.add report.targetId)

variable {plan}

/-- The stored playlists with the role of a source are the sources. -/
theorem filter_role_source (plan : MergePlan) (library : Library) :
    library.playlists.filter (plan.role ·.playlist = .source) = plan.sources library :=
  List.filter_congr fun stored _ => decide_eq_decide.2 (plan.role_eq_source_iff stored)

/-- The sources of the listing are the sources as they are listed. -/
theorem withRole_source_listing (plan : MergePlan) (library : Library) :
    plan.withRole .source library.listing = (plan.sources library).map (·.playlist) := by
  rw [withRole_listing, filter_role_source]

/-- Where ids are distinct, the tracks of the playlists with a role are those of the stored ones. -/
theorem tracksWithRole_eq_map (hids : library.ids.Nodup) (plan : MergePlan) (role : Role) :
    plan.tracksWithRole role library =
      (library.playlists.filter (plan.role ·.playlist = role)).map StoredPlaylist.trackIds := by
  rw [tracksWithRole, withRole_listing, List.map_map]
  refine List.map_congr_left fun stored hstored => ?_
  exact Library.tracksAt_of_mem hids (List.mem_filter.1 hstored).1

/-- Where ids are distinct, the new tracks are what is left of the tracks of sources once those that are
present and those of exclusions are taken out. -/
theorem appendBatch_eq_newTracks (hids : library.ids.Nodup) (plan : MergePlan)
    (present : List String) :
    appendBatch (plan.tracksWithRole .source library) present
      (plan.tracksWithRole .exclusion library) = plan.newTracks library present := by
  rw [tracksWithRole_eq_map hids, tracksWithRole_eq_map hids, filter_role_source,
    appendBatch_eq_eraseDups, newTracks, List.flatMap_def]
  congr 1
  -- Both filters keep the same tracks, once their lists are read as conditions.
  refine List.filter_congr fun track _ => decide_eq_decide.2 ?_
  simp only [List.mem_append, not_or, List.mem_flatten, List.mem_map, List.mem_filter,
    decide_eq_true_eq, role_eq_exclusion_iff]
  constructor
  · rintro ⟨hpresent, hexcluded⟩
    exact ⟨hpresent, fun stored hstored hrole htrack =>
      hexcluded ⟨_, ⟨stored, ⟨hstored, hrole⟩, rfl⟩, htrack⟩⟩
  · rintro ⟨hpresent, hexcluded⟩
    refine ⟨hpresent, ?_⟩
    rintro ⟨_, ⟨stored, ⟨hstored, hrole⟩, rfl⟩, htrack⟩
    exact hexcluded stored hstored hrole htrack

/-- Creating the target does not change the tracks of sources and exclusions. -/
theorem tracksWithRole_withNamed {role : Role} (hrole : role ≠ .target) (newId : IdSource)
    (library : Library) :
    plan.tracksWithRole role (library.withNamed newId plan.targetName) =
      plan.tracksWithRole role library := by
  simp only [tracksWithRole, plan.withRole_listing_withNamed hrole, Library.tracksAt_withNamed]

/-- Where ids are distinct, the batch of a merge is made of the new tracks. -/
theorem batch_withNamed_eq_newTracks (hids : library.ids.Nodup) (plan : MergePlan)
    (newId : IdSource) {target : StoredPlaylist}
    (htarget :
      (library.withNamed newId plan.targetName).firstNamed? plan.targetName = some target) :
    plan.batch (library.withNamed newId plan.targetName) target.playlist.id =
      plan.newTracks library target.trackIds := by
  have hbase := Library.nodup_ids_withNamed hids newId plan.targetName
  rw [batch, Library.tracksAt_of_mem hbase (List.mem_of_find?_eq_some htarget),
    tracksWithRole_withNamed (by decide), tracksWithRole_withNamed (by decide),
    appendBatch_eq_newTracks hids]

/-- Where ids are distinct, a merge that takes its course does what a merge has to do. -/
theorem isMerge_of_course {target : StoredPlaylist} {listingReads trackReads : List Call}
    (hcourse : MergeCourse plan newId library target listingReads trackReads)
    (hsynced : library.IsSynced) (hids : library.ids.Nodup) :
    plan.IsMerge newId library target
      (plan.report (library.withNamed newId plan.targetName) target.playlist.id)
      ((library.withNamed newId plan.targetName).added target.playlist.id
        (chunks maxTracksPerCall
          (plan.batch (library.withNamed newId plan.targetName) target.playlist.id))) := by
  have hbase := Library.nodup_ids_withNamed hids newId plan.targetName
  -- Creating the target makes no new source.
  have hlisted : plan.withRole .source (library.withNamed newId plan.targetName).listing =
      (plan.sources library).map (·.playlist) := by
    rw [withRole_listing_withNamed plan (by decide), withRole_source_listing]
  have hadded := Library.hasAdded_added hids hcourse.isTarget (chunks maxTracksPerCall
    (plan.batch (library.withNamed newId plan.targetName) target.playlist.id))
  rw [flatten_chunks] at hadded
  refine
    { isTarget := hcourse.isTarget
      targetId_eq := rfl
      sourceCount_eq := by rw [report, hlisted, List.length_map]
      candidateCount_eq := ?_
      added_eq := batch_withNamed_eq_newTracks hids plan newId hcourse.isTarget
      warnings_eq := by rw [report, hlisted]; simp only [List.map_eq_nil_iff]
      hasAdded := hadded
      target_after := ?_
      total_eq := fun stored hstored =>
        ((hsynced.withNamed newId plan.targetName).added _ _).toNat_total hstored
      writes_eq := rfl }
  · rw [report, tracksWithRole_eq_map hbase, plan.filter_role_withNamed (by decide),
      filter_role_source, List.flatMap_def]
  · have htarget := hadded.firstNamed?_eq
    rw [hcourse.isTarget] at htarget
    exact htarget

end MergePlan

/-- The plan of a job that is a merge. -/
def Job.plan? (settings : Settings) : Job → Option MergePlan
  | .daily => some (.dailyMixes settings)
  | .subscriptions => some (.subscriptions settings)
  | .list .. | .copy .. | .randomize _ => none

/-- A merge has done to a library what it has to do. -/
def IsMerged (plan : MergePlan) (newId : IdSource) (library : Library) (run : Run MergeReport) :
    Prop :=
  ∃ target report, run.result = .ok report ∧ plan.IsMerge newId library target report run.library

/-- Without an outage a merge succeeds and does what it has to do. -/
theorem isMerged_run_merge (plan : MergePlan) (newId : IdSource) (hsynced : library.IsSynced)
    (hids : library.ids.Nodup) :
    IsMerged plan newId library ((merge plan).run newId .none library) := by
  obtain ⟨target, listingReads, trackReads, hcourse⟩ := exists_mergeCourse plan newId hsynced
  rw [hcourse.yields]
  exact ⟨target, _, rfl, MergePlan.isMerge_of_course hcourse hsynced hids⟩

/-- The merges of the daily mixes and of the subscribed playlists succeed on every library whose
ids are distinct, and do there what they have to do with the names of the settings. -/
theorem isMerged_run_daily_and_subscriptions (settings : Settings) (shuffle : Shuffle)
    (newId : IdSource) (hreach : library.Reachable) (hids : library.ids.Nodup) :
    IsMerged
        ⟨settings.dailyMixPrefix, settings.dailyMixTarget, settings.exclusionPrefix⟩
        newId library ((Job.daily.dialogue settings shuffle).run newId .none library) ∧
      IsMerged
        ⟨settings.subscriptionsPrefix, settings.subscriptionsTarget, settings.exclusionPrefix⟩
        newId library ((Job.subscriptions.dialogue settings shuffle).run newId .none library) :=
  ⟨isMerged_run_merge _ newId hreach.isSynced hids,
    isMerged_run_merge _ newId hreach.isSynced hids⟩

/-- A library with two daily mixes that share a track, an item without a track, a target and an
exclusion. -/
def mixLibrary : Library := .ofSnapshot
  { userId := "user"
    playlists := [
      { playlist := { id := "m1", name := some "Daily Mix 1", owner := { id := "service" } }
        items := [.ofTrack "a", {}, .ofTrack "b", .ofTrack "a"] },
      { playlist := { id := "now", name := some "Now", owner := { id := "user" } }
        items := [.ofTrack "b"] },
      { playlist := { id := "m2", name := some "Daily Mix 2", owner := { id := "service" } }
        items := [.ofTrack "a", .ofTrack "c", .ofTrack "d"] },
      { playlist := { id := "old", name := some "Overplayed", owner := { id := "user" } }
        items := [.ofTrack "d"] }] }

/-- The shuffle that leaves all tracks where they are. -/
def Shuffle.still : Shuffle := ⟨id, .refl⟩

/-- The daily mixes of `mixLibrary` bring two new tracks into its target. -/
theorem isMerged_run_mixLibrary :
    mixLibrary.Reachable ∧ mixLibrary.ids.Nodup ∧
      IsMerged ⟨"Daily Mix", "Now", "Overplayed"⟩ (.ofCandidate "new") mixLibrary
        ((Job.daily.dialogue {} .still).run (.ofCandidate "new") .none mixLibrary) ∧
      ((Job.daily.dialogue {} .still).run (.ofCandidate "new") .none
        mixLibrary).library.trackIdsNamed? "Now" = some ["b", "a", "c"] :=
  ⟨.ofSnapshot _, by decide,
    (isMerged_run_daily_and_subscriptions {} .still _ (.ofSnapshot _) (by decide)).1,
    by decide +kernel⟩

end PlaylistCurator.Curation
