import PlaylistCurator.Proofs.Curation.CopyCourse
import PlaylistCurator.Proofs.Curation.MergeMeaning
import PlaylistCurator.Proofs.Curation.Stages
import PlaylistCurator.Proofs.Service.Interruption

/-!
# What a struck call leaves behind

A job whose call does not get through stops there and fails for the reason of this call. What has
become of the library until then is either nothing, or a target that was created, or as many whole
pieces of the tracks as were added before. Main definition and statement:

* `Job.IsStopped`: what a struck call leaves of a library, job by job;
* `isStopped_run`: this is what it leaves.
-/

namespace PlaylistCurator.Curation

open Dialogue

variable {newId : IdSource} {outage : Outage} {library : Library}

/-- What is left of a library if a command that goes through the four stages is struck. -/
theorem library_of_isInterrupted_stages {α : Type} {free run : Run α} {name : String}
    {target : StoredPlaylist} {first second before : List Call} {tracks : List String}
    {call : Call} {reason : String}
    (hstages : Stages newId library name target.playlist.id first second
      (chunks maxTracksPerCall tracks))
    (hids : library.ids.Nodup)
    (htarget : (library.withNamed newId name).firstNamed? name = some target)
    (hcalls : free.calls = Stages.calls library name target.playlist.id first second
      (chunks maxTracksPerCall tracks))
    (hcut : Run.IsInterrupted newId outage [] library free run before call reason) :
    (call.isAdd = false →
      run.library = library ∨ second ≠ [] ∧ run.library = library.withNamed newId name) ∧
    (call.isAdd = true →
      library.HasAdded newId name (tracks.take (maxTracksPerCall * before.countP Call.isAdd))
        run.library) := by
  have hbegin := hcut.isPrefix
  rw [hcalls] at hbegin
  rw [hcut.library_eq]
  rcases hstages.replay_eq hbegin with ⟨hadd, hstate⟩ | ⟨hadd, hstate⟩
  · exact ⟨fun _ => hstate, fun hother => absurd (hadd.symm.trans hother) Bool.false_ne_true⟩
  · refine ⟨fun hother => absurd (hother.symm.trans hadd) Bool.false_ne_true, fun _ => ?_⟩
    rw [hstate]
    -- The pieces that were added hold the first tracks.
    have htake : ((chunks maxTracksPerCall tracks).take (before.countP Call.isAdd)).flatten =
        tracks.take (maxTracksPerCall * before.countP Call.isAdd) :=
      flatten_take_chunks maxTracksPerCall tracks _
    rw [← htake]
    exact Library.hasAdded_added hids htarget _

/-! ## Merging -/

/-- What a merge leaves of a library if `call` is struck, after the calls `before`. The run `free`
is the one without an outage. -/
structure IsStoppedMerge (plan : MergePlan) (newId : IdSource) (library : Library)
    (before : List Call) (call : Call) (free run : Run MergeReport) : Prop where
  /-- A call that adds no tracks is struck: the library is as it was, or the missing target has been
  created. -/
  of_isAdd_eq_false : call.isAdd = false →
    run.library = library ∨
      library.firstNamed? plan.targetName = none ∧
        run.library = library.withNew newId plan.targetName
  /-- A call that adds tracks is struck: those of the calls before it have been added. -/
  of_isAdd : call.isAdd = true →
    ∃ report, free.result = .ok report ∧
      library.HasAdded newId plan.targetName report.added free.library ∧
      library.HasAdded newId plan.targetName
        (report.added.take (maxTracksPerCall * before.countP Call.isAdd)) run.library

/-- A merge that takes its course goes through the four stages. -/
theorem MergeCourse.stages {plan : MergePlan} {target : StoredPlaylist}
    {listingReads trackReads : List Call}
    (hcourse : MergeCourse plan newId library target listingReads trackReads)
    (hsynced : library.IsSynced) :
    Stages newId library plan.targetName target.playlist.id listingReads trackReads
      (chunks maxTracksPerCall
        (plan.batch (library.withNamed newId plan.targetName) target.playlist.id)) where
  first_read := hcourse.listing_read
  second_read := hcourse.tracks_read
  isSynced := hsynced
  id_mem := Library.id_mem_of_firstNamed? hcourse.isTarget
  pieces_le := fun _ hpiece => length_le_of_mem_chunks hpiece

/-- What a struck call leaves of a library in a merge. -/
theorem isStoppedMerge_of_isInterrupted {plan : MergePlan} (hsynced : library.IsSynced)
    (hids : library.ids.Nodup) {run : Run MergeReport} {before : List Call} {call : Call}
    {reason : String}
    (hcut : Run.IsInterrupted newId outage [] library ((merge plan).run newId .none library) run
      before call reason) :
    IsStoppedMerge plan newId library before call ((merge plan).run newId .none library) run := by
  obtain ⟨target, listingReads, trackReads, hcourse⟩ := exists_mergeCourse plan newId hsynced
  have hcalls := congrArg Run.calls hcourse.yields
  obtain ⟨hother, hadd⟩ :=
    library_of_isInterrupted_stages (hcourse.stages hsynced) hids hcourse.isTarget hcalls hcut
  refine { of_isAdd_eq_false := fun hcall => ?_, of_isAdd := fun hcall => ?_ }
  · rcases hother hcall with hsame | ⟨-, hcreated⟩
    · exact .inl hsame
    -- A target that was there already has not been created.
    · cases hfind : library.firstNamed? plan.targetName with
      | some stored =>
        left
        rw [hcreated, Library.withNamed_of_isSome (by simp [hfind])]
      | none =>
        right
        rw [hcreated, Library.withNamed_of_eq_none hfind]
        exact ⟨rfl, rfl⟩
  · have hall := Library.hasAdded_added hids hcourse.isTarget (chunks maxTracksPerCall
      (plan.batch (library.withNamed newId plan.targetName) target.playlist.id))
    rw [flatten_chunks] at hall
    rw [hcourse.yields]
    exact ⟨_, rfl, hall, hadd hcall⟩

/-! ## Copying -/

/-- What copying leaves of a library if `call` is struck, after the calls `before`. The run `free`
is the one without an outage. -/
structure IsStoppedCopy (source destination : String) (shuffle : Option Shuffle)
    (newId : IdSource) (library : Library) (before : List Call) (call : Call)
    (free run : Run Nat) : Prop where
  /-- A call that adds no tracks is struck: the library is as it was. -/
  of_isAdd_eq_false : call.isAdd = false → run.library = library
  /-- A call that adds tracks is struck: those of the calls before it have been added. -/
  of_isAdd : call.isAdd = true →
    ∃ stored, library.firstNamed? source = some stored ∧
      library.HasAdded newId destination (Shuffle.reorder shuffle stored.trackIds) free.library ∧
      library.HasAdded newId destination
        ((Shuffle.reorder shuffle stored.trackIds).take
          (maxTracksPerCall * before.countP Call.isAdd)) run.library

/-- Copying that takes its course goes through the four stages, of which the third is empty. -/
theorem CopyCourse.stages {source destination : String} {shuffle : Option Shuffle}
    {stored target : StoredPlaylist} {reads : List Call}
    (hcourse : CopyCourse source destination shuffle newId library stored target reads)
    (hsynced : library.IsSynced) :
    Stages newId library destination target.playlist.id reads []
      (chunks maxTracksPerCall
        (Shuffle.reorder shuffle (library.tracksAt stored.playlist.id))) where
  first_read := hcourse.reads_read
  second_read := List.forall_mem_nil _
  isSynced := hsynced
  id_mem := Library.id_mem_of_firstNamed? hcourse.isTarget
  pieces_le := fun _ hpiece => length_le_of_mem_chunks hpiece

/-- What a struck call leaves of a library in copying. -/
theorem isStoppedCopy_of_isInterrupted {source destination : String} {shuffle : Option Shuffle}
    (hsynced : library.IsSynced) (hids : library.ids.Nodup) {run : Run Nat} {before : List Call}
    {call : Call} {reason : String}
    (hcut : Run.IsInterrupted newId outage [] library
      ((copy source destination shuffle).run newId .none library) run before call reason) :
    IsStoppedCopy source destination shuffle newId library before call
      ((copy source destination shuffle).run newId .none library) run := by
  cases hsource : library.firstNamed? source with
  | none =>
    -- Only the listing is read.
    obtain ⟨reads, hreads, hrun⟩ := exists_run_copy_of_eq_none destination shuffle newId hsource
    have hbegin := hcut.isPrefix
    rw [hrun] at hbegin
    have hcall : call.isAdd = false := Call.isAdd_eq_false_of_isWrite
      (hreads call (hbegin.subset (List.mem_append_right _ (List.mem_singleton_self call))))
    refine
      { of_isAdd_eq_false := fun _ => ?_
        of_isAdd := fun hother => absurd (hcall.symm.trans hother) Bool.false_ne_true }
    rw [hcut.library_eq]
    exact replay_eq_of_isPrefix_reads newId library hreads hbegin
  | some stored =>
    obtain ⟨target, reads, hcourse⟩ :=
      exists_copyCourse destination shuffle newId hsynced hsource
    -- Where ids are distinct, the tracks that are read are those of the source.
    have htracks : library.tracksAt stored.playlist.id = stored.trackIds :=
      Library.tracksAt_of_mem hids (List.mem_of_find?_eq_some hsource)
    have hstages := hcourse.stages hsynced
    have hyields := hcourse.yields
    rw [htracks] at hstages hyields
    have hcalls := congrArg Run.calls hyields
    rw [← List.append_nil (reads ++ _)] at hcalls
    obtain ⟨hother, hadd⟩ :=
      library_of_isInterrupted_stages hstages hids hcourse.isTarget hcalls hcut
    refine { of_isAdd_eq_false := fun hcall => ?_, of_isAdd := fun hcall => ?_ }
    · rcases hother hcall with hsame | ⟨hnil, -⟩
      · exact hsame
      · -- Nothing is read between the creation and the adding.
        exact absurd rfl hnil
    · have hall := Library.hasAdded_added hids hcourse.isTarget
        (chunks maxTracksPerCall (Shuffle.reorder shuffle stored.trackIds))
      rw [flatten_chunks] at hall
      rw [hyields]
      exact ⟨stored, hsource, hall, hadd hcall⟩

/-! ## Shuffling and listing -/

/-- If shuffling is struck at a call that adds no tracks, the library is as it was: the call that
replaces the items is the first write. -/
theorem library_eq_of_isInterrupted_randomize {name : String} {shuffle : Shuffle}
    (hsynced : library.IsSynced) {run : Run Nat} {before : List Call} {call : Call}
    {reason : String}
    (hcut : Run.IsInterrupted newId outage [] library
      ((randomize name shuffle).run newId .none library) run before call reason)
    (hcall : call.isAdd = false) : run.library = library := by
  rw [hcut.library_eq]
  have hbegin := hcut.isPrefix
  cases hname : library.firstNamed? name with
  | none =>
    obtain ⟨reads, hreads, hrun⟩ := exists_run_randomize_of_eq_none shuffle newId hname
    rw [hrun] at hbegin
    exact replay_eq_of_isPrefix_reads newId library hreads hbegin
  | some stored =>
    obtain ⟨reads, hcourse⟩ := exists_shuffleCourse shuffle newId hsynced hname
    rw [hcourse.yields] at hbegin
    obtain ⟨hstate, hadds⟩ := replay_eq_rewritten newId hcourse.reads_read hsynced
      (Library.id_mem_of_firstNamed? hname) (fun _ hpiece => length_le_of_mem_chunks hpiece) hbegin
    -- The first write replaces the items, and no write has been carried out.
    have hnone : (before ++ [call]).countP Call.isAdd = 0 := by
      by_contra hpos
      obtain ⟨-, piece, rfl⟩ := hadds (Nat.pos_of_ne_zero hpos)
      cases hcall
    rw [hstate, hnone]
    rfl

/-- Wherever listing is struck, the library is as it was. -/
theorem library_eq_of_isInterrupted_list {filter sort : Option String} {run : Run (List Record)}
    {before : List Call} {call : Call} {reason : String}
    (hcut : Run.IsInterrupted newId outage [] library
      ((list filter sort).run newId .none library) run before call reason) :
    run.library = library := by
  rw [hcut.library_eq]
  exact replay_eq_of_isPrefix_reads newId library
    (isWrite_eq_false_of_mem_calls_run_list filter sort) hcut.isPrefix

/-! ## All jobs -/

/-- What a job leaves of a library if `call` is struck, after the calls `before`. The run `free` is
the one without an outage. -/
def Job.IsStopped (settings : Settings) (shuffle : Shuffle) (newId : IdSource) (library : Library)
    (before : List Call) (call : Call) : (job : Job) → (free run : Run job.Product) → Prop
  | .daily, free, run =>
    IsStoppedMerge (.dailyMixes settings) newId library before call free run
  | .subscriptions, free, run =>
    IsStoppedMerge (.subscriptions settings) newId library before call free run
  | .list .., _, run => run.library = library
  | .copy source destination isShuffled, free, run =>
    IsStoppedCopy source destination (if isShuffled then some shuffle else none) newId library
      before call free run
  | .randomize _, _, run => call.isAdd = false → run.library = library

/-- A struck call is the last one that a job makes; the job fails for the reason of the call, and
leaves of the library what it has to leave. -/
theorem isStopped_run (settings : Settings) (shuffle : Shuffle) (job : Job)
    (hreach : library.Reachable) (hids : library.ids.Nodup) {before after : List Call}
    {call : Call} {reason : String}
    (hcalls : ((job.dialogue settings shuffle).run newId outage library).calls =
      before ++ call :: after)
    (hstruck : outage before call = some reason) :
    after = [] ∧
      (∃ during, ((job.dialogue settings shuffle).run newId outage library).result =
        .error ⟨.callFailed reason, during⟩) ∧
      job.IsStopped settings shuffle newId library before call
        ((job.dialogue settings shuffle).run newId .none library)
        ((job.dialogue settings shuffle).run newId outage library) := by
  obtain ⟨hlast, hcut⟩ := interrupted_of_struck hcalls hstruck
  refine ⟨hlast, hcut.result_eq, ?_⟩
  cases job with
  | daily => exact isStoppedMerge_of_isInterrupted hreach.isSynced hids hcut
  | subscriptions => exact isStoppedMerge_of_isInterrupted hreach.isSynced hids hcut
  | list filter sort => exact library_eq_of_isInterrupted_list hcut
  | copy source destination isShuffled =>
    exact isStoppedCopy_of_isInterrupted hreach.isSynced hids hcut
  | randomize name => exact library_eq_of_isInterrupted_randomize hreach.isSynced hcut

/-- A library with a playlist of more tracks than a single call may carry. -/
def longLibrary : Library := .ofSnapshot
  { userId := "user"
    playlists := [
      { playlist := { id := "long", name := some "Long", owner := { id := "user" } }
        items := List.replicate 101 (.ofTrack "t") }] }

/-- The run that copies the playlist of `longLibrary` until the second call that adds tracks. -/
def longCopyRun : Run Nat :=
  (copy "Long" "Copy" none).run (.ofCandidate "new") (.ofFaults [⟨Call.isAdd, 2, "offline"⟩])
    longLibrary

/-- That run is stopped, and the copy has as many tracks as a single call may carry. -/
theorem isStopped_longCopyRun :
    longLibrary.Reachable ∧ longLibrary.ids.Nodup ∧
      longCopyRun.calls = longCopyRun.calls.dropLast ++ [.add "new" ["t"]] ∧
      Outage.ofFaults [⟨Call.isAdd, 2, "offline"⟩] longCopyRun.calls.dropLast
        (.add "new" ["t"]) = some "offline" ∧
      (Job.copy "Long" "Copy" false).IsStopped {} .still (.ofCandidate "new") longLibrary
        longCopyRun.calls.dropLast (.add "new" ["t"])
        ((copy "Long" "Copy" none).run (.ofCandidate "new") .none longLibrary) longCopyRun ∧
      longCopyRun.library.trackIdsNamed? "Copy" = some (List.replicate 100 "t") := by
  have hreach : longLibrary.Reachable := .ofSnapshot _
  have hids : longLibrary.ids.Nodup := by decide +kernel
  have hcalls : longCopyRun.calls = longCopyRun.calls.dropLast ++ [.add "new" ["t"]] := by
    decide +kernel
  have hstruck : Outage.ofFaults [⟨Call.isAdd, 2, "offline"⟩] longCopyRun.calls.dropLast
      (.add "new" ["t"]) = some "offline" := by decide +kernel
  obtain ⟨-, -, hstopped⟩ := isStopped_run {} .still (.copy "Long" "Copy" false) hreach hids
    hcalls hstruck
  exact ⟨hreach, hids, hcalls, hstruck, hstopped, by decide +kernel⟩

end PlaylistCurator.Curation
