import PlaylistCurator.Proofs.Curation.CopyCourse
import PlaylistCurator.Proofs.Curation.MergeMeaning
import PlaylistCurator.Proofs.Curation.Stages
import PlaylistCurator.Proofs.Service.Interruption

/-!
# Reads before writes

Listing, copying and shuffling make no read after a write, wherever they are interrupted. A merge
is different if it creates its target: it then goes on to read the tracks of the target, the
exclusions and the sources. Main statement:

* `readsFirst_calls_run_iff`: exactly such a merge reads after a write.
-/

namespace PlaylistCurator.Curation

open Dialogue

variable {newId : IdSource} {outage : Outage} {library : Library}

/-- No read comes after a write. -/
def ReadsFirst (calls : List Call) : Prop :=
  calls.Pairwise fun earlier later => earlier.isWrite = true → later.isWrite = true

instance (calls : List Call) : Decidable (ReadsFirst calls) :=
  inferInstanceAs (Decidable (List.Pairwise _ calls))

/-- Reads and then writes. -/
theorem readsFirst_append {reads writes : List Call} (hreads : ∀ call ∈ reads, call.isWrite = false)
    (hwrites : ∀ call ∈ writes, call.isWrite = true) : ReadsFirst (reads ++ writes) := by
  refine List.pairwise_append.2 ⟨?_, ?_, ?_⟩
  · refine List.pairwise_of_forall_mem_list ?_
    intro earlier hearlier later _ hwrite
    rw [hreads earlier hearlier] at hwrite
    cases hwrite
  · refine List.pairwise_of_forall_mem_list ?_
    intro earlier _ later hlater _
    exact hwrites later hlater
  · intro earlier hearlier later hlater _
    exact hwrites later hlater

/-- A beginning of calls without a read after a write has none either. -/
theorem ReadsFirst.of_isPrefix {calls more : List Call} (h : ReadsFirst more)
    (hbegin : calls <+: more) : ReadsFirst calls :=
  List.Pairwise.sublist hbegin.sublist h

/-- If the run without outage reads first, so does every other run. -/
theorem readsFirst_calls_run {α : Type} {dialogue : Dialogue α}
    (h : ReadsFirst (dialogue.run newId .none library).calls) (outage : Outage) :
    ReadsFirst (dialogue.run newId outage library).calls :=
  h.of_isPrefix (dialogue.isPrefix_calls_run library)

/-- The calls that add pieces of tracks are writes. -/
theorem isWrite_of_mem_map_add {id : String} {pieces : List (List String)} {call : Call}
    (h : call ∈ pieces.map (Call.add id)) : call.isWrite = true := by
  obtain ⟨piece, -, rfl⟩ := List.mem_map.1 h
  rfl

/-! ## Listing, copying and shuffling -/

/-- The calls that rewrite a playlist are writes. -/
theorem isWrite_of_mem_rewriteCalls {id : String} {pieces : List (List String)} {call : Call}
    (h : call ∈ rewriteCalls id pieces) : call.isWrite = true := by
  cases pieces with
  | nil => cases h
  | cons first rest =>
    rcases List.mem_cons.1 h with rfl | h
    · rfl
    · exact isWrite_of_mem_map_add h

/-- Creating a playlist after reads is still reading first. -/
theorem readsFirst_creation {reads adds : List Call} (library : Library) (name : String)
    (hreads : ∀ call ∈ reads, call.isWrite = false) (hadds : ∀ call ∈ adds, call.isWrite = true) :
    ReadsFirst (reads ++ creationCalls library name ++ adds) := by
  cases hfind : library.firstNamed? name with
  | some target =>
    rw [creationCalls, hfind, List.append_assoc]
    exact readsFirst_append hreads hadds
  | none =>
    -- Asking for the user's id is the last read and creating the playlist the first write.
    have hsplit : reads ++ creationCalls library name ++ adds =
        (reads ++ [.userId]) ++ (.create library.snapshot.userId name false :: adds) := by
      rw [creationCalls, hfind]
      simp
    rw [hsplit]
    refine readsFirst_append ?_ (List.forall_mem_cons.2 ⟨rfl, hadds⟩)
    exact List.forall_mem_append.2 ⟨hreads, by simp [Call.isWrite]⟩

/-- Listing makes no write. -/
theorem readsFirst_calls_run_list (filter sort : Option String) :
    ReadsFirst ((list filter sort).run newId .none library).calls := by
  rw [← List.append_nil (Run.calls _)]
  exact readsFirst_append (isWrite_eq_false_of_mem_calls_run_list filter sort)
    (List.forall_mem_nil (Call.isWrite · = true))

/-- Copying reads before it creates and adds. -/
theorem readsFirst_calls_run_copy (source destination : String) (shuffle : Option Shuffle)
    (hsynced : library.IsSynced) :
    ReadsFirst ((copy source destination shuffle).run newId .none library).calls := by
  cases hsource : library.firstNamed? source with
  | none =>
    obtain ⟨reads, hreads, hrun⟩ :=
      exists_run_copy_of_eq_none destination shuffle newId hsource
    rw [hrun, ← List.append_nil reads]
    exact readsFirst_append hreads (by simp)
  | some stored =>
    obtain ⟨target, reads, hcourse⟩ :=
      exists_copyCourse destination shuffle newId hsynced hsource
    rw [hcourse.yields]
    exact readsFirst_creation library destination hcourse.reads_read fun _ => isWrite_of_mem_map_add

/-- Shuffling reads before it rewrites. -/
theorem readsFirst_calls_run_randomize (name : String) (shuffle : Shuffle)
    (hsynced : library.IsSynced) :
    ReadsFirst ((randomize name shuffle).run newId .none library).calls := by
  cases hname : library.firstNamed? name with
  | none =>
    obtain ⟨reads, hreads, hrun⟩ := exists_run_randomize_of_eq_none shuffle newId hname
    rw [hrun, ← List.append_nil reads]
    exact readsFirst_append hreads (by simp)
  | some stored =>
    obtain ⟨reads, hcourse⟩ := exists_shuffleCourse shuffle newId hsynced hname
    rw [hcourse.yields]
    exact readsFirst_append hcourse.reads_read fun _ => isWrite_of_mem_rewriteCalls

/-! ## Merging -/

/-- A read after the creation of a playlist is a read after a write. -/
theorem not_readsFirst_of_creation {name : String} {first second : List Call} {read : Call}
    (hmissing : library.firstNamed? name = none) (hread : read.isWrite = false)
    (hmem : read ∈ second) : ¬ ReadsFirst (first ++ creationCalls library name ++ second) := by
  intro hreads
  rw [creationCalls, hmissing] at hreads
  have hcreate := (List.pairwise_append.1 hreads).2.2 (.create library.snapshot.userId name false)
    (by simp) read hmem rfl
  rw [hread] at hcreate
  cases hcreate

/-- Once a missing playlist has been created, the library has more playlists. -/
theorem length_lt_of_creation {name : String} {first : List Call} (newId : IdSource)
    (hmissing : library.firstNamed? name = none) (hfirst : ∀ call ∈ first, call.isWrite = false)
    (more : List Call) :
    library.playlists.length <
      (library.replay newId (first ++ creationCalls library name ++ more)).playlists.length := by
  -- The id of the created playlist is one more, and none is taken away later.
  have hids := Library.ids_prefix_replay (library.withNew newId name) newId more
  have hlength := hids.length_le
  rw [Library.replay_append, Library.replay_append,
    Library.replay_of_forall_isWrite_eq_false newId hfirst, replay_creationCalls,
    Library.withNamed_of_eq_none hmissing]
  simp only [Library.ids, List.length_map, Library.playlists_withNew, List.length_append,
    List.length_singleton] at hlength
  exact hlength

/-- Calls that create no playlist keep the ids, wherever they are interrupted. -/
theorem ids_library_run {α : Type} {dialogue : Dialogue α}
    (hcreate : ∀ call ∈ (dialogue.run newId .none library).calls, ∀ owner name isPublic,
      call ≠ .create owner name isPublic) (outage : Outage) :
    (dialogue.run newId outage library).library.ids = library.ids := by
  rcases dialogue.run_eq_or_interrupted newId outage library with
    ⟨-, heq⟩ | ⟨before, call, reason, hcut⟩
  · rw [heq, library_run_eq_replay]
    exact Library.ids_replay hcreate
  · rw [hcut.library_eq]
    refine Library.ids_replay fun other hother => hcreate other ?_
    exact hcut.isPrefix.subset (List.mem_append_left _ hother)

/-- A merge into a target that is there reads first and creates nothing. -/
theorem readsFirst_and_ids_eq_of_isSome {plan : MergePlan} {target : StoredPlaylist}
    {listingReads trackReads : List Call}
    (hcourse : MergeCourse plan newId library target listingReads trackReads)
    (htarget : (library.firstNamed? plan.targetName).isSome) (outage : Outage) :
    ReadsFirst ((merge plan).run newId outage library).calls ∧
      ((merge plan).run newId outage library).library.ids = library.ids := by
  have hcalls := congrArg Run.calls hcourse.yields
  rw [creationCalls, if_pos htarget, List.append_nil] at hcalls
  have hreads : ∀ call ∈ listingReads ++ trackReads, call.isWrite = false :=
    List.forall_mem_append.2 ⟨hcourse.listing_read, hcourse.tracks_read⟩
  refine ⟨readsFirst_calls_run ?_ outage, ids_library_run ?_ outage⟩
  · rw [hcalls]
    exact readsFirst_append hreads fun _ => isWrite_of_mem_map_add
  · -- All calls are reads or add tracks.
    rw [hcalls]
    rintro call hcall owner name isPublic rfl
    rcases List.mem_append.1 hcall with hcall | hcall
    · cases hreads _ hcall
    · obtain ⟨piece, -, hpiece⟩ := List.mem_map.1 hcall
      cases hpiece

/-- A merge that is to create its target and then reads more reads first unless it has created it. -/
theorem readsFirst_iff_of_eq_none {plan : MergePlan} {target : StoredPlaylist} {read : Call}
    {listingReads trackReads : List Call}
    (hcourse : MergeCourse plan newId library target listingReads (read :: trackReads))
    (hmissing : library.firstNamed? plan.targetName = none) (outage : Outage) :
    ReadsFirst ((merge plan).run newId outage library).calls ↔
      ¬ library.playlists.length <
        ((merge plan).run newId outage library).library.playlists.length := by
  have hread := hcourse.tracks_read read List.mem_cons_self
  have hcalls := congrArg Run.calls hcourse.yields
  rw [List.append_assoc] at hcalls
  rcases (merge plan).run_eq_or_interrupted newId outage library with
    ⟨-, heq⟩ | ⟨before, call, reason, hcut⟩
  · rw [heq, library_run_eq_replay, hcalls]
    refine iff_of_false ?_ (not_not_intro ?_)
    · exact not_readsFirst_of_creation hmissing hread (by simp)
    · exact length_lt_of_creation newId hmissing hcourse.listing_read _
  · have hbegin := hcut.isPrefix
    rw [hcalls] at hbegin
    rw [hcut.library_eq, hcut.calls_eq]
    rcases concat_isPrefix_append hbegin with hbegin | ⟨later, rfl, hlater⟩
    · -- Struck before the target was created: nothing was written.
      have hreads := readsFirst_creation library plan.targetName hcourse.listing_read
        (List.forall_mem_nil (Call.isWrite · = true))
      rw [List.append_nil] at hreads
      rw [replay_eq_of_isPrefix_creation newId library hcourse.listing_read hbegin]
      exact iff_of_true (hreads.of_isPrefix hbegin) (Nat.lt_irrefl _)
    · -- Struck after that: the first read of tracks has been made.
      have hmem : read ∈ later ++ [call] := by
        rcases List.prefix_cons_iff.1 hlater with hnil | ⟨tail, htail, -⟩
        · simp at hnil
        · rw [htail]
          exact List.mem_cons_self
      rw [List.append_assoc (listingReads ++ _)]
      refine iff_of_false (not_readsFirst_of_creation hmissing hread hmem) (not_not_intro ?_)
      exact length_lt_of_creation newId hmissing hcourse.listing_read later

/-- A merge reads first unless it has sources and has created its target. -/
theorem readsFirst_calls_run_merge_iff (plan : MergePlan) (newId : IdSource) (outage : Outage)
    (hsynced : library.IsSynced) :
    ReadsFirst ((merge plan).run newId outage library).calls ↔
      ¬ (plan.sources library ≠ [] ∧ library.playlists.length <
        ((merge plan).run newId outage library).library.playlists.length) := by
  obtain ⟨target, listingReads, trackReads, hcourse⟩ := exists_mergeCourse plan newId hsynced
  have hlisted : trackReads = [] ↔ plan.sources library = [] := by
    rw [hcourse.trackReads_eq_nil_iff, MergePlan.withRole_source_listing, List.map_eq_nil_iff]
  cases hmissing : library.firstNamed? plan.targetName with
  | some stored =>
    obtain ⟨hreads, hids⟩ :=
      readsFirst_and_ids_eq_of_isSome hcourse (by simp [hmissing]) outage
    have hlength := congrArg List.length hids
    simp only [Library.ids, List.length_map] at hlength
    refine iff_of_true hreads fun hcreated => ?_
    exact absurd hcreated.2 (by rw [hlength]; exact Nat.lt_irrefl _)
  | none =>
    by_cases hsources : plan.sources library = []
    · -- Without sources nothing is read after the creation.
      refine iff_of_true (readsFirst_calls_run ?_ outage) fun hcreated => hcreated.1 hsources
      have hcalls := congrArg Run.calls hcourse.yields
      rw [hcalls, hlisted.2 hsources, List.append_nil]
      exact readsFirst_creation library _ hcourse.listing_read fun _ => isWrite_of_mem_map_add
    · obtain ⟨read, more, rfl⟩ := List.exists_cons_of_ne_nil (mt hlisted.1 hsources)
      have hiff := readsFirst_iff_of_eq_none hcourse hmissing outage
      exact hiff.trans (not_congr (and_iff_right hsources).symm)

/-- A job reads first unless it is a merge that has sources and has created its target. -/
theorem readsFirst_calls_run_iff (settings : Settings) (shuffle : Shuffle) (newId : IdSource)
    (outage : Outage) (job : Job) (hreach : library.Reachable) :
    ReadsFirst ((job.dialogue settings shuffle).run newId outage library).calls ↔
      ¬ ∃ plan, job.plan? settings = some plan ∧ plan.sources library ≠ [] ∧
        library.playlists.length <
          ((job.dialogue settings shuffle).run newId outage library).library.playlists.length := by
  cases job with
  | daily =>
    simp only [Job.plan?, Option.some.injEq, exists_eq_left']
    exact readsFirst_calls_run_merge_iff _ newId outage hreach.isSynced
  | subscriptions =>
    simp only [Job.plan?, Option.some.injEq, exists_eq_left']
    exact readsFirst_calls_run_merge_iff _ newId outage hreach.isSynced
  | list filter sort =>
    refine iff_of_true (readsFirst_calls_run (readsFirst_calls_run_list filter sort) outage) ?_
    simp [Job.plan?]
  | copy source destination isShuffled =>
    refine iff_of_true (readsFirst_calls_run
      (readsFirst_calls_run_copy source destination _ hreach.isSynced) outage) ?_
    simp [Job.plan?]
  | randomize name =>
    refine iff_of_true (readsFirst_calls_run
      (readsFirst_calls_run_randomize name shuffle hreach.isSynced) outage) ?_
    simp [Job.plan?]

/-- A library with a daily mix and no target for it. -/
def targetlessLibrary : Library := .ofSnapshot
  { userId := "tester"
    playlists := [
      { playlist := { id := "d1", name := some "Daily Mix 1", owner := { id := "tester" } }
        items := [.ofTrack "a", .ofTrack "b"] }] }

/-- The merge of the daily mixes into a missing target reads tracks after it has created the
target. -/
theorem readsFirst_fails_on_targetlessLibrary :
    ¬ ReadsFirst ((Job.daily.dialogue {} .still).run (.ofCandidate "new") .none
      targetlessLibrary).calls := by
  decide +kernel

/-- If the creation of the target is struck, that merge makes no read after a write. -/
theorem readsFirst_calls_run_struck_creation :
    targetlessLibrary.Reachable ∧
      ReadsFirst ((Job.daily.dialogue {} .still).run (.ofCandidate "new")
        (.ofFaults [⟨Call.isWrite, 1, "offline"⟩]) targetlessLibrary).calls := by
  have hreach : targetlessLibrary.Reachable := .ofSnapshot _
  refine ⟨hreach, (readsFirst_calls_run_iff {} .still _ _ .daily hreach).2 ?_⟩
  rintro ⟨plan, -, -, hcreated⟩
  revert hcreated
  decide +kernel

end PlaylistCurator.Curation
