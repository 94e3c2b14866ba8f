import PlaylistCurator.Program
import PlaylistCurator.Proofs.Curation.MergeMeaning
import PlaylistCurator.Proofs.Service.Interruption

/-!
# Merging again

A merge that has succeeded leaves nothing for a second one to do, on any library, whether ids and
names are distinct or not. What carries over from the first to the second merge is said by id:

* `MergePlan.map_id_withRole_added`: adding tracks changes no playlist's role;
* `MergePlan.batch_added_eq_nil`: once the batch has been added, the next one is empty;
* `MergePlan.run_merge_of_batch_eq_nil`: a merge with an empty batch only reads.

Main statement:

* `staysMerged_run_daily_and_subscriptions`: a second merge adds nothing, writes nothing and leaves
  the library file alone.
-/

namespace PlaylistCurator

open Dialogue

variable {newId : IdSource} {library : Library}

/-- No track is lost when tracks are added. -/
theorem Library.tracksAt_subset_added {id : String} (hid : id ∈ library.ids) (other : String)
    (pieces : List (List String)) :
    library.tracksAt other ⊆ (library.added id pieces).tracksAt other := by
  by_cases hother : other = id
  · rw [hother, tracksAt_added_self hid]
    exact List.subset_append_left _ _
  · rw [tracksAt_added_of_ne library hother]
    exact List.Subset.refl _

/-- Adding tracks does not change which playlist is the first one of a name. -/
theorem Library.map_id_firstNamed?_added (library : Library) (id : String)
    (pieces : List (List String)) (name : String) :
    ((library.added id pieces).firstNamed? name).map (·.playlist.id) =
      (library.firstNamed? name).map (·.playlist.id) :=
  map_find?_addFirst (fun _ => rfl) fun _ => rfl

namespace Curation

namespace MergePlan

variable (plan : MergePlan)

/-- Adding tracks leaves the roles of all playlists as they are. -/
theorem map_id_withRole_added (role : Role) (library : Library) (id : String)
    (pieces : List (List String)) :
    (plan.withRole role (library.added id pieces).listing).map (·.id) =
      (plan.withRole role library.listing).map (·.id) := by
  rw [withRole_listing, withRole_listing, List.map_map, List.map_map]
  exact map_filter_addFirst (fun _ => rfl) fun _ => rfl

/-- Once the batch has been added, there is nothing left to add. -/
theorem batch_added_eq_nil {id : String} (hid : id ∈ library.ids) {pieces : List (List String)}
    (hpieces : pieces.flatten = plan.batch library id) :
    plan.batch (library.added id pieces) id = [] := by
  refine appendBatch_eq_nil fun track htrack => ?_
  obtain ⟨source, hsource, htrack⟩ := plan.mem_flatten_tracksWithRole.1 htrack
  rw [map_id_withRole_added] at hsource
  by_cases hsame : source = id
  -- A source with the id of the target has its tracks.
  · exact .inl (hsame ▸ htrack)
  · rw [Library.tracksAt_added_of_ne library hsame] at htrack
    have hcandidate : track ∈ (plan.tracksWithRole .source library).flatten :=
      plan.mem_flatten_tracksWithRole.2 ⟨source, hsource, htrack⟩
    by_cases hexcluded : track ∈ (plan.tracksWithRole .exclusion library).flatten
    · -- Exclusions keep their tracks and their role.
      obtain ⟨exclusion, hexclusion, hmem⟩ := plan.mem_flatten_tracksWithRole.1 hexcluded
      right
      refine plan.mem_flatten_tracksWithRole.2 ⟨exclusion, ?_, ?_⟩
      · rwa [map_id_withRole_added]
      · exact Library.tracksAt_subset_added hid exclusion pieces hmem
    · -- What is not excluded was in the target or has just been added.
      left
      rw [Library.tracksAt_added_self hid, hpieces, List.mem_append]
      by_cases hpresent : track ∈ library.tracksAt id
      · exact .inl hpresent
      · exact .inr (mem_appendBatch.2 ⟨hcandidate, hpresent, hexcluded⟩)

/-- The batch depends on the stored playlists only. -/
theorem batch_congr {other : Library} (h : other.playlists = library.playlists) (id : String) :
    plan.batch other id = plan.batch library id := by
  simp only [batch, tracksWithRole, Library.listing, Library.tracksAt, Library.find?, h]

/-- A report about nothing that was added says why. -/
theorem report_of_batch_eq_nil {targetId : String} (h : plan.batch library targetId = []) :
    ∃ warning, plan.report library targetId =
        ⟨targetId, (plan.withRole .source library.listing).length,
          (plan.tracksWithRole .source library).flatten.length, [], [warning]⟩ ∧
      (warning = .noSources plan.sourcePrefix ∨ warning = .nothingToAdd) := by
  by_cases hnone : plan.withRole .source library.listing = []
  · exact ⟨.noSources plan.sourcePrefix, by simp [report, h, hnone], .inl rfl⟩
  · exact ⟨.nothingToAdd, by simp [report, h, hnone], .inr rfl⟩

/-- A merge into a playlist that is there, with nothing to add to it, only reads. -/
theorem run_merge_of_batch_eq_nil (hsynced : library.IsSynced) {target : StoredPlaylist}
    (htarget : library.firstNamed? plan.targetName = some target)
    (hbatch : plan.batch library target.playlist.id = []) (newId : IdSource) :
    ∃ reads, (∀ call ∈ reads, call.isWrite = false) ∧
      (merge plan).run newId .none library =
        ⟨.ok (plan.report library target.playlist.id), library, reads⟩ := by
  obtain ⟨found, listingReads, trackReads, hcourse⟩ := exists_mergeCourse plan newId hsynced
  have hsome : (library.firstNamed? plan.targetName).isSome := by
    rw [htarget, Option.isSome_some]
  have hfound := hcourse.isTarget
  rw [Library.withNamed_of_isSome hsome, htarget] at hfound
  obtain rfl := Option.some.inj hfound
  refine ⟨listingReads ++ trackReads,
    List.forall_mem_append.2 ⟨hcourse.listing_read, hcourse.tracks_read⟩, ?_⟩
  -- Nothing is created and nothing is added.
  have hrun := hcourse.yields
  rw [Library.withNamed_of_isSome hsome, creationCalls, if_pos hsome, hbatch, chunks,
    Library.added_nil hsynced, List.map_nil, List.append_nil, List.append_nil] at hrun
  exact hrun

end MergePlan

/-- The run of a merge on a library where there is nothing left to do after a merge has reported
`report`. -/
structure RepeatsMerge (plan : MergePlan) (report : MergeReport) (library : Library)
    (run : Run MergeReport) : Prop where
  /-- The merge succeeds with the same target and as many sources, adds nothing and warns. -/
  result_eq : ∃ candidateCount warning,
    run.result = .ok ⟨report.targetId, report.sourceCount, candidateCount, [], [warning]⟩ ∧
      (warning = .noSources plan.sourcePrefix ∨ warning = .nothingToAdd)
  /-- The merge only reads. -/
  calls_read : ∀ call ∈ run.calls, call.isWrite = false
  /-- The library stays as it is, with its playlists and its record of writes. -/
  library_eq : run.library = library

/-- Without an outage a merge repeats one that has added its batch to the target, on every library
with the playlists that this has left. -/
theorem repeatsMerge_of_course {plan : MergePlan} {target : StoredPlaylist}
    {listingReads trackReads : List Call}
    (hcourse : MergeCourse plan newId library target listingReads trackReads)
    (hsynced : library.IsSynced) {again : Library}
    (hagain : again.playlists = ((library.withNamed newId plan.targetName).added
      target.playlist.id (chunks maxTracksPerCall
        (plan.batch (library.withNamed newId plan.targetName) target.playlist.id))).playlists)
    (nextId : IdSource) :
    RepeatsMerge plan (plan.report (library.withNamed newId plan.targetName) target.playlist.id)
      again ((merge plan).run nextId .none again) := by
  have htarget := hcourse.isTarget
  have hbase := hsynced.withNamed newId plan.targetName
  generalize library.withNamed newId plan.targetName = base at *
  have hsyncedAgain : again.IsSynced := by
    intro stored hstored
    rw [hagain] at hstored
    exact hbase.added _ _ stored hstored
  -- The target is found, and it is the one that was found or created before.
  obtain ⟨found, hfound, hsame⟩ : ∃ found, again.firstNamed? plan.targetName = some found ∧
      found.playlist.id = target.playlist.id := by
    refine Option.map_eq_some_iff.1 ?_
    rw [Library.firstNamed?, hagain, ← Library.firstNamed?, Library.map_id_firstNamed?_added,
      htarget, Option.map_some]
  -- There are as many sources, and no new tracks.
  have hsources : (plan.withRole .source again.listing).length =
      (plan.withRole .source base.listing).length := by
    have hids := plan.map_id_withRole_added .source base target.playlist.id
      (chunks maxTracksPerCall (plan.batch base target.playlist.id))
    rw [Library.listing, ← hagain, ← Library.listing] at hids
    simpa using congrArg List.length hids
  have hbatch : plan.batch again found.playlist.id = [] := by
    rw [hsame, plan.batch_congr hagain]
    exact plan.batch_added_eq_nil (Library.id_mem_of_firstNamed? htarget) (flatten_chunks _ _)
  obtain ⟨reads, hreads, hrun⟩ :=
    plan.run_merge_of_batch_eq_nil hsyncedAgain hfound hbatch nextId
  obtain ⟨warning, hreport, hwarning⟩ := plan.report_of_batch_eq_nil hbatch
  rw [hreport, hsame, hsources] at hrun
  rw [hrun]
  exact { result_eq := ⟨_, warning, rfl, hwarning⟩, calls_read := hreads, library_eq := rfl }

/-- After a merge that has succeeded, every merge without an outage repeats it, on every library
with the snapshot that it has left. -/
theorem repeatsMerge_run (plan : MergePlan) (newId : IdSource) (outage : Outage)
    (hsynced : library.IsSynced) {report : MergeReport}
    (hok : ((merge plan).run newId outage library).result = .ok report) {again : Library}
    (hagain : again.snapshot = ((merge plan).run newId outage library).library.snapshot)
    (nextId : IdSource) :
    RepeatsMerge plan report again ((merge plan).run nextId .none again) := by
  obtain ⟨target, listingReads, trackReads, hcourse⟩ := exists_mergeCourse plan newId hsynced
  -- A merge that succeeds under an outage goes like the one without.
  rw [run_eq_of_result_eq_ok hok, hcourse.yields] at hagain
  rw [run_eq_of_result_eq_ok hok, hcourse.yields] at hok
  obtain rfl := Except.ok.inj hok
  exact repeatsMerge_of_course hcourse hsynced (congrArg Snapshot.playlists hagain) nextId

/-- A job that leaves a library that was just loaded as it is does nothing to a file. -/
theorem exists_finish_eq_done {settings : Settings} {chance : Chance} {again : Library}
    (path : String) (job : Job) {product : job.Product}
    (hresult : ((job.dialogue settings chance.shuffle).run chance.newId .none again).result =
      .ok product)
    (hlibrary : ((job.dialogue settings chance.shuffle).run chance.newId .none again).library =
      again)
    (hwrites : again.writes = []) :
    ∃ output, Program.finish chance job ⟨settings, path, again⟩ = .done { output } := by
  refine ⟨job.report product, ?_⟩
  simp only [Program.finish, hresult, hlibrary, Program.saveWritten, hwrites, List.isEmpty_nil,
    ↓reduceIte]
  rfl

/-- What is left to do after a merge: if it has succeeded, then merging again repeats it, and a
program that has just loaded what it has left merges again without an operation on a file. -/
def StaysMerged (settings : Settings) (job : Job) (plan : MergePlan)
    (dialogue : Dialogue MergeReport) (first : Run MergeReport) : Prop :=
  ∀ report, first.result = .ok report →
    ∀ again : Library, again.snapshot = first.library.snapshot →
      (∀ nextId, RepeatsMerge plan report again (dialogue.run nextId .none again)) ∧
        (again.writes = [] → ∀ chance path, ∃ output,
          Program.finish chance job ⟨settings, path, again⟩ = .done { output })

/-- A job stays merged after a merge if it does nothing to a file where merging again changes
nothing. -/
theorem staysMerged_run_merge {settings : Settings} {job : Job} {plan : MergePlan}
    (hfinish : ∀ (again : Library) (chance : Chance) (report : MergeReport) (path : String),
      ((merge plan).run chance.newId .none again).result = .ok report →
      ((merge plan).run chance.newId .none again).library = again → again.writes = [] →
        ∃ output, Program.finish chance job ⟨settings, path, again⟩ = .done { output })
    (newId : IdSource) (outage : Outage) (hreach : library.Reachable) :
    StaysMerged settings job plan (merge plan) ((merge plan).run newId outage library) := by
  intro report hok again hagain
  have hrepeats := repeatsMerge_run plan newId outage hreach.isSynced hok hagain
  refine ⟨hrepeats, fun hwrites chance path => ?_⟩
  obtain ⟨count, warning, hresult, -⟩ := (hrepeats chance.newId).result_eq
  exact hfinish again chance _ path hresult (hrepeats chance.newId).library_eq hwrites

/-- A second merge of the daily mixes or of the subscribed playlists adds nothing, writes nothing
and leaves the file alone. -/
theorem staysMerged_run_daily_and_subscriptions (settings : Settings) (shuffle : Shuffle)
    (newId : IdSource) (outage : Outage) (hreach : library.Reachable) :
    StaysMerged settings .daily (.dailyMixes settings) (Job.daily.dialogue settings shuffle)
        ((Job.daily.dialogue settings shuffle).run newId outage library) ∧
      StaysMerged settings .subscriptions (.subscriptions settings)
        (Job.subscriptions.dialogue settings shuffle)
        ((Job.subscriptions.dialogue settings shuffle).run newId outage library) := by
  constructor
  · exact staysMerged_run_merge (fun _ _ _ path => exists_finish_eq_done path .daily) newId outage
      hreach
  · exact staysMerged_run_merge (fun _ _ _ path => exists_finish_eq_done path .subscriptions) newId
      outage hreach

/-- The daily mixes of `mixLibrary` are merged once and for all. -/
theorem staysMerged_run_mixLibrary :
    mixLibrary.Reachable ∧
      ((merge (.dailyMixes {})).run (.ofCandidate "new") .none mixLibrary).result.toOption =
        some ⟨"now", 2, 6, ["a", "c"], []⟩ ∧
      StaysMerged {} .daily (.dailyMixes {}) (Job.daily.dialogue {} .still)
        ((Job.daily.dialogue {} .still).run (.ofCandidate "new") .none mixLibrary) :=
  ⟨.ofSnapshot _, by decide +kernel,
    (staysMerged_run_daily_and_subscriptions {} .still _ _ (.ofSnapshot _)).1⟩

end Curation

end PlaylistCurator
