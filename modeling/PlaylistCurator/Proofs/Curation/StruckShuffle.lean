import Mathlib.Data.List.Perm.Basic
import PlaylistCurator.Proofs.Curation.Shuffling
import PlaylistCurator.Proofs.Curation.StruckCall

/-!
# What a shuffle that fails leaves behind

Shuffling replaces the items of a playlist by the first piece of its tracks before it adds the other
pieces. So if it fails when it is to add a piece, this piece and those after it are lost; if it fails
before that, nothing has changed. Main definition and statement:

* `IsCutShort`: what a shuffle that fails leaves of a library;
* `isCutShort_run_randomize`: this is what it leaves.
-/

namespace PlaylistCurator.Curation

open Dialogue

variable {newId : IdSource} {outage : Outage} {library : Library} {name : String}

/-- The first tracks of another order are not all tracks, with their repeats. -/
theorem Shuffle.not_forall_count_le_take (shuffle : Shuffle) {tracks : List String} {length : Nat}
    (hlength : length < tracks.length) :
    ¬ ∀ track, tracks.count track ≤ ((shuffle.order tracks).take length).count track := by
  intro hcount
  have hsubperm : tracks.Subperm ((shuffle.order tracks).take length) :=
    List.subperm_ext_iff.2 fun track _ => hcount track
  have hle := Nat.le_trans hsubperm.length_le (List.length_take_le length _)
  omega

/-- What a shuffle that has failed leaves of a library. The calls that were to add tracks are counted
with the one that has failed. -/
structure IsCutShort (name : String) (shuffle : Shuffle) (library : Library) (run : Run Nat) :
    Prop where
  /-- As long as no tracks were to be added, the library is as it was. -/
  of_countP_eq_zero : run.calls.countP Call.isAdd = 0 → run.library = library
  /-- Otherwise the call that has failed was to add tracks, and the playlist has the tracks of as many
  full pieces as calls were to add tracks: there are more of them. -/
  of_countP_pos : 0 < run.calls.countP Call.isAdd → ∃ stored before piece,
    library.firstNamed? name = some stored ∧
      run.calls = before ++ [.add stored.playlist.id piece] ∧
      maxTracksPerCall * run.calls.countP Call.isAdd < stored.trackIds.length ∧
      library.HasRewritten stored
        ((shuffle.order stored.trackIds).take (maxTracksPerCall * run.calls.countP Call.isAdd))
        run.library
  /-- The playlist has each track as often as before exactly as long as no tracks were to be added. -/
  keepsTracks_iff : ∀ stored, library.firstNamed? name = some stored →
    ((∃ after, run.library.firstNamed? name = some after ∧
        ∀ track, stored.trackIds.count track ≤ after.trackIds.count track) ↔
      run.calls.countP Call.isAdd = 0)

/-- A shuffle that was not to add tracks is cut short in this way if it has changed nothing. -/
theorem isCutShort_of_countP_eq_zero {shuffle : Shuffle} {run : Run Nat}
    (hcount : run.calls.countP Call.isAdd = 0) (hlibrary : run.library = library) :
    IsCutShort name shuffle library run where
  of_countP_eq_zero := fun _ => hlibrary
  of_countP_pos := fun hpos => absurd hcount (Nat.ne_of_gt hpos)
  keepsTracks_iff := fun stored hname =>
    iff_of_true ⟨stored, hlibrary.symm ▸ hname, fun _ => Nat.le_refl _⟩ hcount

/-- A shuffle that was to add tracks is cut short in this way if it has rewritten the playlist by the
tracks of full pieces. -/
theorem isCutShort_of_hasRewritten {shuffle : Shuffle} {run : Run Nat} {stored : StoredPlaylist}
    {before : List Call} {piece : List String} (hname : library.firstNamed? name = some stored)
    (hcount : run.calls.countP Call.isAdd ≠ 0)
    (hcalls : run.calls = before ++ [.add stored.playlist.id piece])
    (hlength : maxTracksPerCall * run.calls.countP Call.isAdd < stored.trackIds.length)
    (hrewritten : library.HasRewritten stored
      ((shuffle.order stored.trackIds).take (maxTracksPerCall * run.calls.countP Call.isAdd))
      run.library) :
    IsCutShort name shuffle library run where
  of_countP_eq_zero := fun hzero => absurd hzero hcount
  of_countP_pos := fun _ => ⟨stored, before, piece, hname, hcalls, hlength, hrewritten⟩
  keepsTracks_iff := by
    intro listed hlisted
    obtain rfl := Option.some.inj (hname.symm.trans hlisted)
    refine iff_of_false ?_ hcount
    rintro ⟨after, hafter, htracks⟩
    rw [hrewritten.firstNamed?_eq hname] at hafter
    obtain rfl := Option.some.inj hafter
    rw [StoredPlaylist.trackIds_withTracks] at htracks
    exact shuffle.not_forall_count_le_take hlength htracks

/-- A shuffle that is struck is cut short. -/
theorem isCutShort_of_isInterrupted {shuffle : Shuffle} (hsynced : library.IsSynced)
    (hids : library.ids.Nodup) {run : Run Nat} {before : List Call} {call : Call} {reason : String}
    (hcut : Run.IsInterrupted newId outage [] library
      ((randomize name shuffle).run newId .none library) run before call reason) :
    IsCutShort name shuffle library run := by
  have hbegin := hcut.isPrefix
  cases hname : library.firstNamed? name with
  | none =>
    -- Only the listing is read.
    obtain ⟨reads, hreads, hrun⟩ := exists_run_randomize_of_eq_none shuffle newId hname
    rw [hrun] at hbegin
    refine isCutShort_of_countP_eq_zero ?_ ?_
    · rw [hcut.calls_eq]
      exact countP_isAdd_of_reads fun other hother => hreads other (hbegin.subset hother)
    · rw [hcut.library_eq]
      exact replay_eq_of_isPrefix_reads newId library hreads hbegin
  | some stored =>
    obtain ⟨reads, hreads, hrun⟩ :=
      exists_run_randomize_of_eq_some shuffle newId hsynced hids hname
    rw [hrun] at hbegin
    obtain ⟨hstate, hadds⟩ := replay_eq_rewritten newId hreads hsynced
      (Library.id_mem_of_firstNamed? hname) (fun _ hpiece => length_le_of_mem_chunks hpiece) hbegin
    rw [← hcut.calls_eq, ← hcut.library_eq] at hstate
    rw [← hcut.calls_eq] at hadds
    by_cases hcount : run.calls.countP Call.isAdd = 0
    · -- The items have not been replaced.
      refine isCutShort_of_countP_eq_zero hcount ?_
      rw [hstate, hcount]
      rfl
    · obtain ⟨hless, piece, rfl⟩ := hadds (Nat.pos_of_ne_zero hcount)
      -- Some tracks belong to the pieces that were written, and some to others.
      have hlength : maxTracksPerCall * run.calls.countP Call.isAdd < stored.trackIds.length := by
        rw [← (shuffle.perm stored.trackIds).length_eq]
        exact mul_lt_length_of_lt_length_chunks hless
      have hpieces : (chunks maxTracksPerCall (shuffle.order stored.trackIds)).take
          (run.calls.countP Call.isAdd) ≠ [] := by
        refine List.ne_nil_of_length_pos ?_
        rw [List.length_take]
        omega
      have hrewritten :=
        Library.hasRewritten_rewritten hids (List.mem_of_find?_eq_some hname) hpieces
      rw [← hstate, flatten_take_chunks] at hrewritten
      exact isCutShort_of_hasRewritten hname hcount hcut.calls_eq hlength hrewritten

/-- A shuffle that fails is cut short. -/
theorem isCutShort_run_randomize (shuffle : Shuffle) (hreach : library.Reachable)
    (hids : library.ids.Nodup) {failure : Failure}
    (hfail : ((randomize name shuffle).run newId outage library).result = .error failure) :
    IsCutShort name shuffle library ((randomize name shuffle).run newId outage library) := by
  rcases (randomize name shuffle).run_eq_or_interrupted newId outage library with
    ⟨-, hfree⟩ | ⟨before, call, reason, hcut⟩
  · -- Without an outage only a playlist that is not listed makes a shuffle fail.
    rw [hfree] at hfail ⊢
    cases hname : library.firstNamed? name with
    | none =>
      obtain ⟨reads, hreads, hrun⟩ := exists_run_randomize_of_eq_none shuffle newId hname
      rw [hrun]
      exact isCutShort_of_countP_eq_zero (countP_isAdd_of_reads hreads) rfl
    | some stored =>
      obtain ⟨reads, -, hrun⟩ :=
        exists_run_randomize_of_eq_some shuffle newId hreach.isSynced hids hname
      rw [hrun] at hfail
      cases hfail
  · exact isCutShort_of_isInterrupted hreach.isSynced hids hcut

/-- The run that shuffles the playlist of `longLibrary` until the call that adds the second piece. -/
def longShuffleRun : Run Nat :=
  (randomize "Long" .still).run (.ofCandidate "new") (.ofFaults [⟨Call.isAdd, 1, "offline"⟩])
    longLibrary

/-- That run is cut short, and the playlist has as many tracks as a single call may carry. -/
theorem isCutShort_longShuffleRun :
    longLibrary.Reachable ∧ longLibrary.ids.Nodup ∧
      longShuffleRun.result = .error ⟨.callFailed "offline", [.addReordered "Long"]⟩ ∧
      IsCutShort "Long" .still longLibrary longShuffleRun ∧
      longShuffleRun.library.trackIdsNamed? "Long" = some (List.replicate 100 "t") := by
  have hreach : longLibrary.Reachable := .ofSnapshot _
  have hids : longLibrary.ids.Nodup := by decide +kernel
  have hfail : longShuffleRun.result =
      .error ⟨.callFailed "offline", [.addReordered "Long"]⟩ := by decide +kernel
  exact ⟨hreach, hids, hfail, isCutShort_run_randomize .still hreach hids hfail, by decide +kernel⟩

/-- That run has failed, and of the 101 times that a track was there 100 are left. -/
theorem count_decreases_on_longShuffleRun :
    longLibrary.ids.Nodup ∧ (∃ failure, longShuffleRun.result = .error failure) ∧
      (longLibrary.trackIdsNamed? "Long").map (·.count "t") = some 101 ∧
      (longShuffleRun.library.trackIdsNamed? "Long").map (·.count "t") = some 100 := by
  have hfail : longShuffleRun.result =
      .error ⟨.callFailed "offline", [.addReordered "Long"]⟩ := by decide +kernel
  exact ⟨by decide +kernel, ⟨_, hfail⟩, by decide +kernel, by decide +kernel⟩

end PlaylistCurator.Curation
