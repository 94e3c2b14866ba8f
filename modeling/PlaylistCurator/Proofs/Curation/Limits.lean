import PlaylistCurator.Proofs.Curation.CopyCourse
import PlaylistCurator.Proofs.Curation.MergeMeaning
import PlaylistCurator.Proofs.Curation.StruckCall
import PlaylistCurator.Proofs.Service.Interruption

/-!
# What commands keep to

No call that a command makes is refused by the library: the ids that it names are there at the time
of the call, and tracks are written in full pieces, of which only the last may be shorter. So a
command can fail, apart from an outage, only because it is given what it cannot use. Main
definitions and statements:

* `Library.AnswersAll`: a library answers some calls one after the other;
* `WritesInPieces`: what the calls of a command carry;
* `FailsUnlessListed`: a command fails exactly if no listed playlist has a name;
* `isOrderly_run`: no job is refused a call, and it writes the pieces of some tracks;
* `keepsToContract`: how the commands end, and what their calls keep to.
-/

namespace PlaylistCurator

/-! ## Pieces -/

section Pieces

variable {α : Type} {size : Nat} {entries piece : List α}

/-- No piece of a list is empty. -/
theorem one_le_length_of_mem_chunks (h : piece ∈ chunks size entries) : 1 ≤ piece.length := by
  fun_induction chunks size entries with
  | case1 => cases h
  | case2 entry rest ih =>
    rcases List.mem_cons.1 h with rfl | h
    · rw [List.length_take, List.length_cons]
      omega
    · exact ih h

/-- Every piece of a list but the last is full. -/
theorem length_eq_of_mem_dropLast_chunks (h : piece ∈ (chunks size entries).dropLast) :
    piece.length = max size 1 := by
  fun_induction chunks size entries with
  | case1 => cases h
  | case2 entry rest ih =>
    by_cases hlast : rest.drop (max size 1 - 1) = []
    · -- What is left over is empty, and the first piece is the last one.
      rw [hlast, chunks] at h
      cases h
    · have hne : chunks size (rest.drop (max size 1 - 1)) ≠ [] := by
        obtain ⟨next, others, hnext⟩ := List.exists_cons_of_ne_nil hlast
        rw [hnext, chunks]
        exact List.cons_ne_nil _ _
      rw [List.dropLast_cons_of_ne_nil hne] at h
      rcases List.mem_cons.1 h with rfl | h
      · rw [List.drop_eq_nil_iff] at hlast
        rw [List.length_take, List.length_cons]
        omega
      · exact ih h

end Pieces

/-- The tracks that a call is to write into a playlist. -/
def Call.tracks? : Call → Option (List String)
  | .add _ tracks | .replace _ tracks => some tracks
  | _ => none

/-- The lists of tracks that some calls are to write, in their order. -/
def tracksWritten (calls : List Call) : List (List String) :=
  calls.filterMap Call.tracks?

@[simp]
theorem tracksWritten_append (calls more : List Call) :
    tracksWritten (calls ++ more) = tracksWritten calls ++ tracksWritten more :=
  List.filterMap_append

/-- Reads write no tracks. -/
theorem tracksWritten_of_reads {calls : List Call} (h : ∀ call ∈ calls, call.isWrite = false) :
    tracksWritten calls = [] := by
  refine List.filterMap_eq_nil_iff.2 fun call hcall => ?_
  have hread := h call hcall
  cases call with
  | add | replace => cases hread
  | _ => rfl

/-- Calls that add pieces of tracks write these pieces. -/
@[simp]
theorem tracksWritten_map_add (id : String) (pieces : List (List String)) :
    tracksWritten (pieces.map (.add id)) = pieces := by
  simp [tracksWritten, List.filterMap_map, Function.comp_def, Call.tracks?]

/-- Calls write full pieces of 100 tracks each, of which only the last one may be shorter. -/
structure WritesInPieces (calls : List Call) : Prop where
  /-- No call writes an empty piece. -/
  one_le : ∀ tracks ∈ tracksWritten calls, 1 ≤ tracks.length
  /-- No call writes more than 100 tracks. -/
  length_le : ∀ tracks ∈ tracksWritten calls, tracks.length ≤ 100
  /-- All calls but the last that writes tracks write 100. -/
  length_eq : ∀ tracks ∈ (tracksWritten calls).dropLast, tracks.length = 100

/-- Calls that write the first pieces of some tracks write in pieces. -/
theorem writesInPieces_of_isPrefix {calls : List Call} {tracks : List String}
    (h : tracksWritten calls <+: chunks maxTracksPerCall tracks) : WritesInPieces calls where
  one_le _ hpiece := one_le_length_of_mem_chunks (h.subset hpiece)
  length_le _ hpiece := length_le_of_mem_chunks (h.subset hpiece)
  length_eq piece hpiece := by
    -- Where the calls end early, their last piece is not the last one of the tracks.
    have hfull : piece ∈ (chunks maxTracksPerCall tracks).dropLast := by
      obtain ⟨more, hmore⟩ := h
      rw [← hmore, List.dropLast_append]
      split
      · exact hpiece
      · exact List.mem_append_left _ (List.dropLast_subset _ hpiece)
    exact length_eq_of_mem_dropLast_chunks hfull

/-! ## Refusals -/

/-- The causes for which a library refuses a call: no playlist has the id, or there are too many
tracks. -/
def Cause.IsRefusal : Cause → Prop
  | .unknownPlaylist _ | .tooManyTracks .. => True
  | _ => False

namespace Library

/-- A library refuses calls for no other causes. -/
theorem isRefusal_of_answer {library : Library} {newId : IdSource} {call : Call} {cause : Cause}
    (h : library.answer newId call = .error cause) : cause.IsRefusal := by
  cases call with
  | userId | playlists | playlistsAfter | create => cases h
  | items id =>
    simp only [answer] at h
    split at h
    · obtain rfl := Except.error.inj h
      trivial
    · cases h
  | itemsAfter id offset next =>
    simp only [answer] at h
    split at h
    · cases h
    · obtain rfl := Except.error.inj h
      trivial
    · cases h
  | add id tracks | replace id tracks =>
    rcases writeItems_eq_error_iff.1 h with ⟨-, rfl⟩ | ⟨-, -, rfl⟩
    · trivial
    · trivial

/-- A library answers some calls, made one after the other: it refuses none of them. -/
def AnswersAll (newId : IdSource) : Library → (calls : List Call) → Prop
  | _, [] => True
  | library, call :: rest =>
    (∃ answered, library.answer newId call = .ok answered) ∧
      (library.afterCall newId call).AnswersAll newId rest

/-- A library that answers some calls answers the first ones of them. -/
theorem AnswersAll.of_append {newId : IdSource} {library : Library} {calls more : List Call}
    (h : library.AnswersAll newId (calls ++ more)) : library.AnswersAll newId calls := by
  induction calls generalizing library with
  | nil => trivial
  | cons call rest ih => exact ⟨h.1, ih h.2⟩

end Library

namespace Dialogue

variable {α : Type} {newId : IdSource}

/-- In a run without outage all calls are answered, or the run fails by a refusal. -/
theorem answersAll_or_isRefusal_run (newId : IdSource) (dialogue : Dialogue α)
    (library : Library) :
    library.AnswersAll newId (dialogue.run newId .none library).calls ∨
      ∃ failure, (dialogue.run newId .none library).result = .error failure ∧
        failure.cause.IsRefusal := by
  -- By induction on the dialogue; the library is the one that the answered calls have left.
  induction dialogue generalizing library with
  | done result => exact .inl trivial
  | fail failure => exact .inl trivial
  | ask call during next ih =>
    cases hanswer : library.answer newId call with
    | error cause =>
      right
      rw [run_ask_of_refusal hanswer]
      exact ⟨_, rfl, Library.isRefusal_of_answer hanswer⟩
    | ok answered =>
      rw [run_ask_of_answer hanswer]
      rcases ih answered.1 answered.2 with hanswers | hrefused
      · left
        refine ⟨⟨answered, hanswer⟩, ?_⟩
        rw [Library.afterCall_of_answer newId hanswer]
        exact hanswers
      · exact .inr hrefused

end Dialogue

namespace Curation

open Dialogue

variable {newId : IdSource} {library : Library}

/-- A run without outage is in order: it does not fail by a refusal, and it writes the pieces of a
list of tracks. -/
structure IsOrderly {α : Type} (run : Run α) : Prop where
  /-- The run does not fail by a refusal. -/
  not_isRefusal : ∀ failure, run.result = .error failure → ¬ failure.cause.IsRefusal
  /-- The run writes the pieces of a list of tracks. -/
  exists_tracks : ∃ tracks, tracksWritten run.calls = chunks maxTracksPerCall tracks

/-- What the calls of a run keep to. -/
structure KeepsToLimits {α : Type} (newId : IdSource) (library : Library) (run : Run α) :
    Prop where
  /-- Tracks are written in full pieces, of which only the last one may be shorter. -/
  writesInPieces : WritesInPieces run.calls
  /-- The library would refuse none of the calls, each at the time when it is made. -/
  answersAll : library.AnswersAll newId run.calls
  /-- No playlist turns out to be missing by its id, and no call to carry too many tracks. -/
  not_isRefusal : ∀ failure, run.result = .error failure → ¬ failure.cause.IsRefusal

/-- If the run without outage is in order, all runs keep to the limits. -/
theorem IsOrderly.keepsToLimits {α : Type} {dialogue : Dialogue α}
    (h : IsOrderly (dialogue.run newId .none library)) (outage : Outage) :
    KeepsToLimits newId library (dialogue.run newId outage library) := by
  obtain ⟨tracks, htracks⟩ := h.exists_tracks
  have hbegin : (dialogue.run newId outage library).calls <+:
      (dialogue.run newId .none library).calls := dialogue.isPrefix_calls_run library
  have hanswers : library.AnswersAll newId (dialogue.run newId .none library).calls := by
    rcases dialogue.answersAll_or_isRefusal_run newId library with hanswers | hrefused
    · exact hanswers
    · obtain ⟨failure, hresult, hrefusal⟩ := hrefused
      exact absurd hrefusal (h.not_isRefusal failure hresult)
  refine ⟨?_, ?_, ?_⟩
  · have hpieces : tracksWritten (dialogue.run newId outage library).calls <+:
        tracksWritten (dialogue.run newId .none library).calls := hbegin.filterMap Call.tracks?
    rw [htracks] at hpieces
    exact writesInPieces_of_isPrefix hpieces
  · obtain ⟨more, hmore⟩ := hbegin
    rw [← hmore] at hanswers
    exact hanswers.of_append
  · -- An outage makes a run fail only by the reason of the struck call.
    rcases dialogue.run_eq_or_interrupted newId outage library with
      ⟨-, heq⟩ | ⟨before, call, reason, hcut⟩
    · exact heq ▸ h.not_isRefusal
    · intro failure hfailure hrefusal
      obtain ⟨during, hresult⟩ := hcut.result_eq
      rw [hresult] at hfailure
      obtain rfl := Except.error.inj hfailure
      exact hrefusal

/-! ## Runs without outage -/

/-- A run that fails after reads for a cause that is no refusal is in order. -/
theorem isOrderly_of_reads {α : Type} {failure : Failure} {reads : List Call}
    (hreads : ∀ call ∈ reads, call.isWrite = false) (hcause : ¬ failure.cause.IsRefusal) :
    IsOrderly (⟨.error failure, library, reads⟩ : Run α) where
  not_isRefusal := by
    intro _ hfailure
    obtain rfl := Except.error.inj hfailure
    exact hcause
  exists_tracks := by
    refine ⟨[], ?_⟩
    rw [chunks]
    exact tracksWritten_of_reads hreads

/-- A run that gets through is in order if it writes the pieces of some tracks. -/
theorem isOrderly_of_yields {α : Type} {dialogue : Dialogue α} {result : α} {after : Library}
    {calls : List Call} (hyields : dialogue.Yields newId library result after calls)
    (tracks : List String) (htracks : tracksWritten calls = chunks maxTracksPerCall tracks) :
    IsOrderly (dialogue.run newId .none library) := by
  rw [hyields]
  constructor
  · intro failure hfailure
    cases hfailure
  · exact ⟨tracks, htracks⟩

/-- Creating a playlist writes no tracks. -/
theorem tracksWritten_creationCalls (library : Library) (name : String) :
    tracksWritten (creationCalls library name) = [] := by
  unfold creationCalls
  split
  · rfl
  · rfl

/-- Rewriting a playlist writes the pieces. -/
theorem tracksWritten_rewriteCalls (id : String) (pieces : List (List String)) :
    tracksWritten (rewriteCalls id pieces) = pieces := by
  cases pieces with
  | nil => rfl
  | cons first rest =>
    change first :: tracksWritten (rest.map (.add id)) = first :: rest
    rw [tracksWritten_map_add]

/-- A merge is in order. -/
theorem isOrderly_run_merge (plan : MergePlan) (newId : IdSource) (hsynced : library.IsSynced) :
    IsOrderly ((merge plan).run newId .none library) := by
  obtain ⟨target, listingReads, trackReads, hcourse⟩ := exists_mergeCourse plan newId hsynced
  refine isOrderly_of_yields hcourse.yields
    (plan.batch (library.withNamed newId plan.targetName) target.playlist.id) ?_
  simp only [tracksWritten_append, tracksWritten_of_reads hcourse.listing_read,
    tracksWritten_creationCalls, tracksWritten_of_reads hcourse.tracks_read,
    tracksWritten_map_add, List.nil_append]

/-- Listing is in order, whether the expressions are refused or not. -/
theorem isOrderly_run_list (filter sort : Option String) (newId : IdSource) (library : Library) :
    IsOrderly ((list filter sort).run newId .none library) := by
  rcases run_list_or_reads filter sort newId library with ⟨error, hrun⟩ | ⟨records, hreads⟩
  · rw [hrun]
    exact isOrderly_of_reads (List.forall_mem_nil _) id
  · obtain ⟨reads, hread, hyields⟩ := hreads
    refine isOrderly_of_yields hyields [] ?_
    rw [chunks]
    exact tracksWritten_of_reads hread

/-- Copying is in order, whether the source is listed or not. -/
theorem isOrderly_run_copy (source destination : String) (shuffle : Option Shuffle)
    (newId : IdSource) (hsynced : library.IsSynced) :
    IsOrderly ((copy source destination shuffle).run newId .none library) := by
  cases hsource : library.firstNamed? source with
  | none =>
    obtain ⟨reads, hreads, hrun⟩ := exists_run_copy_of_eq_none destination shuffle newId hsource
    rw [hrun]
    exact isOrderly_of_reads hreads id
  | some stored =>
    obtain ⟨target, reads, hcourse⟩ := exists_copyCourse destination shuffle newId hsynced hsource
    refine isOrderly_of_yields hcourse.yields
      (Shuffle.reorder shuffle (library.tracksAt stored.playlist.id)) ?_
    simp only [tracksWritten_append, tracksWritten_of_reads hcourse.reads_read,
      tracksWritten_creationCalls, tracksWritten_map_add, List.nil_append]

/-- Shuffling is in order, whether the playlist is listed or not. -/
theorem isOrderly_run_randomize (name : String) (shuffle : Shuffle) (newId : IdSource)
    (hsynced : library.IsSynced) :
    IsOrderly ((randomize name shuffle).run newId .none library) := by
  cases hname : library.firstNamed? name with
  | none =>
    obtain ⟨reads, hreads, hrun⟩ := exists_run_randomize_of_eq_none shuffle newId hname
    rw [hrun]
    exact isOrderly_of_reads hreads id
  | some stored =>
    obtain ⟨reads, hcourse⟩ := exists_shuffleCourse shuffle newId hsynced hname
    refine isOrderly_of_yields hcourse.yields
      (shuffle.order (library.tracksAt stored.playlist.id)) ?_
    rw [tracksWritten_append, tracksWritten_of_reads hcourse.reads_read, tracksWritten_rewriteCalls,
      List.nil_append]

/-- All jobs are in order. -/
theorem isOrderly_run (settings : Settings) (shuffle : Shuffle) (newId : IdSource)
    (hsynced : library.IsSynced) (job : Job) :
    IsOrderly ((job.dialogue settings shuffle).run newId .none library) := by
  cases job with
  | daily => exact isOrderly_run_merge _ newId hsynced
  | subscriptions => exact isOrderly_run_merge _ newId hsynced
  | list filter sort => exact isOrderly_run_list filter sort newId library
  | copy source destination isShuffled => exact isOrderly_run_copy _ _ _ newId hsynced
  | randomize name => exact isOrderly_run_randomize name shuffle newId hsynced

/-! ## How commands fail -/

/-- A command fails exactly if no listed playlist has a name; it then says so, and it has written
nothing. -/
structure FailsUnlessListed {α : Type} (library : Library) (name : String) (run : Run α) :
    Prop where
  /-- The command fails exactly if no listed playlist has the name. -/
  fails_iff : (∃ failure, run.result = .error failure) ↔
    ∀ playlist ∈ library.listing, playlist.name ≠ some name
  /-- The failure says that there is no playlist of the name. -/
  failure_eq : ∀ failure, run.result = .error failure →
    failure = { cause := .playlistNotFound name }
  /-- A command that fails has made no write. -/
  only_reads : ∀ failure, run.result = .error failure →
    run.library = library ∧ ∀ call ∈ run.calls, call.isWrite = false

/-- A command fails as it should if the name is not listed. -/
theorem failsUnlessListed_of_eq_none {α : Type} {name : String} {reads : List Call}
    (hname : library.firstNamed? name = none) (hreads : ∀ call ∈ reads, call.isWrite = false) :
    FailsUnlessListed library name
      (⟨.error { cause := .playlistNotFound name }, library, reads⟩ : Run α) where
  fails_iff := iff_of_true ⟨_, rfl⟩ (Library.firstNamed?_eq_none_iff.1 hname)
  failure_eq := fun _ hfailure => (Except.error.inj hfailure).symm
  only_reads := fun _ _ => ⟨rfl, hreads⟩

/-- A command gets through as it should if the name is listed. -/
theorem failsUnlessListed_of_eq_some {α : Type} {name : String} {stored : StoredPlaylist}
    {result : α} {after : Library} {calls : List Call}
    (hname : library.firstNamed? name = some stored) :
    FailsUnlessListed library name ⟨.ok result, after, calls⟩ where
  fails_iff := by
    refine iff_of_false (fun ⟨failure, hfailure⟩ => nomatch hfailure) fun hnone => ?_
    rw [← Library.firstNamed?_eq_none_iff, hname] at hnone
    cases hnone
  failure_eq := fun _ hfailure => nomatch hfailure
  only_reads := fun _ hfailure => nomatch hfailure

/-- Copying fails exactly if its source is not listed. -/
theorem failsUnlessListed_run_copy (source destination : String) (shuffle : Option Shuffle)
    (newId : IdSource) (hsynced : library.IsSynced) :
    FailsUnlessListed library source
      ((copy source destination shuffle).run newId .none library) := by
  cases hsource : library.firstNamed? source with
  | none =>
    obtain ⟨reads, hreads, hrun⟩ := exists_run_copy_of_eq_none destination shuffle newId hsource
    exact hrun ▸ failsUnlessListed_of_eq_none hsource hreads
  | some stored =>
    obtain ⟨target, reads, hcourse⟩ := exists_copyCourse destination shuffle newId hsynced hsource
    rw [hcourse.yields]
    exact failsUnlessListed_of_eq_some hsource

/-- Shuffling fails exactly if its playlist is not listed. -/
theorem failsUnlessListed_run_randomize (name : String) (shuffle : Shuffle) (newId : IdSource)
    (hsynced : library.IsSynced) :
    FailsUnlessListed library name ((randomize name shuffle).run newId .none library) := by
  cases hname : library.firstNamed? name with
  | none =>
    obtain ⟨reads, hreads, hrun⟩ := exists_run_randomize_of_eq_none shuffle newId hname
    exact hrun ▸ failsUnlessListed_of_eq_none hname hreads
  | some stored =>
    obtain ⟨reads, hcourse⟩ := exists_shuffleCourse shuffle newId hsynced hname
    rw [hcourse.yields]
    exact failsUnlessListed_of_eq_some hname

/-- Without sources or with them, a merge succeeds. -/
theorem exists_result_run_merge (plan : MergePlan) (newId : IdSource)
    (hsynced : library.IsSynced) :
    ∃ report, ((merge plan).run newId .none library).result = .ok report := by
  obtain ⟨target, listingReads, trackReads, hcourse⟩ := exists_mergeCourse plan newId hsynced
  rw [hcourse.yields]
  exact ⟨_, rfl⟩

/-- How commands end on a library, and what their calls keep to. -/
structure KeepsToContract (settings : Settings) (shuffle : Shuffle) (newId : IdSource)
    (library : Library) : Prop where
  /-- Merging the daily mixes succeeds. -/
  daily : ∃ report,
    ((Job.daily.dialogue settings shuffle).run newId .none library).result = .ok report
  /-- Merging the subscribed playlists succeeds. -/
  subscriptions : ∃ report,
    ((Job.subscriptions.dialogue settings shuffle).run newId .none library).result = .ok report
  /-- Listing fails only for an expression that is refused, before it makes calls. -/
  list : ∀ filter sort failure,
    (((Job.list filter sort).dialogue settings shuffle).run newId .none library).result =
      .error failure →
    (∃ error, failure = { cause := .query error }) ∧
      (((Job.list filter sort).dialogue settings shuffle).run newId .none library).calls = []
  /-- Copying fails exactly if its source is not listed. -/
  copy : ∀ source destination isShuffled,
    FailsUnlessListed library source
      (((Job.copy source destination isShuffled).dialogue settings shuffle).run newId .none library)
  /-- Shuffling fails exactly if its playlist is not listed. -/
  randomize : ∀ name,
    FailsUnlessListed library name
      (((Job.randomize name).dialogue settings shuffle).run newId .none library)
  /-- The calls of all jobs keep to the limits, whatever the outage. -/
  keepsToLimits : ∀ (job : Job) outage,
    KeepsToLimits newId library ((job.dialogue settings shuffle).run newId outage library)

/-- Commands fail for what they are given and for outages only, and they write in full pieces, which
no library refuses. -/
theorem keepsToContract (settings : Settings) (shuffle : Shuffle) (newId : IdSource)
    (hreach : library.Reachable) : KeepsToContract settings shuffle newId library where
  daily := exists_result_run_merge _ newId hreach.isSynced
  subscriptions := exists_result_run_merge _ newId hreach.isSynced
  list := by
    intro filter sort failure
    change ((Curation.list filter sort).run newId .none library).result = .error failure →
      _ ∧ ((Curation.list filter sort).run newId .none library).calls = []
    rcases run_list_or_reads filter sort newId library with ⟨error, hrun⟩ | ⟨_, _, -, hyields⟩
    · rw [hrun]
      exact fun hfailure => ⟨⟨error, (Except.error.inj hfailure).symm⟩, rfl⟩
    · rw [hyields]
      exact fun hfailure => nomatch hfailure
  copy := fun _ _ _ => failsUnlessListed_run_copy _ _ _ newId hreach.isSynced
  randomize := fun _ => failsUnlessListed_run_randomize _ shuffle newId hreach.isSynced
  keepsToLimits := fun job outage =>
    (isOrderly_run settings shuffle newId hreach.isSynced job).keepsToLimits outage

/-- The 101 tracks of `longLibrary` are copied in a full piece and a short one, and a playlist that
is not there is not shuffled. -/
theorem keepsToContract_longLibrary :
    longLibrary.Reachable ∧ KeepsToContract {} .still (.ofCandidate "new") longLibrary ∧
      (tracksWritten (((Job.copy "Long" "Copy" false).dialogue {} .still).run (.ofCandidate "new")
        .none longLibrary).calls).map List.length = [100, 1] ∧
      (((Job.randomize "Short").dialogue {} .still).run (.ofCandidate "new") .none
        longLibrary).result = .error { cause := .playlistNotFound "Short" } := by
  have hreach : longLibrary.Reachable := .ofSnapshot _
  exact ⟨hreach, keepsToContract {} .still _ hreach, by decide +kernel, rfl⟩

end Curation

end PlaylistCurator
