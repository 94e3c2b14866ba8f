import PlaylistCurator.Proofs.Curation.Attempts

/-!
# No track is added twice

Merges that follow one another, of either kind and interrupted or not, add no track twice to the same
playlist, and none that this playlist had from the beginning. The record of writes shows it:

* `addedTo`: the tracks that recorded writes have added to a playlist;
* `Library.AddsOnce`: some writes add fresh tracks only, a relation that can be composed;
* `exists_addsOnce_afterAttempts`: all writes of merges in a row are of this kind.
-/

namespace PlaylistCurator

/-- The tracks that writes add to the playlist with an id, in order. -/
def addedTo (id : String) (writes : List Write) : List String :=
  writes.flatMap fun
    | .add other tracks => if other = id then tracks else []
    | .create .. | .replace .. => []

theorem addedTo_append (id : String) (writes more : List Write) :
    addedTo id (writes ++ more) = addedTo id writes ++ addedTo id more :=
  List.flatMap_append

theorem addedTo_map_add_self (id : String) (pieces : List (List String)) :
    addedTo id (pieces.map (.add id)) = pieces.flatten := by
  induction pieces with
  | nil => rfl
  | cons piece rest ih =>
    have hrest : addedTo id (.add id piece :: rest.map (.add id)) =
        piece ++ addedTo id (rest.map (.add id)) := by
      simp [addedTo]
    rw [List.map_cons, hrest, ih, List.flatten_cons]

theorem addedTo_map_add_of_ne {id other : String} (hne : other ≠ id)
    (pieces : List (List String)) : addedTo other (pieces.map (.add id)) = [] := by
  refine List.flatMap_eq_nil_iff.2 fun write hwrite => ?_
  obtain ⟨piece, -, rfl⟩ := List.mem_map.1 hwrite
  exact if_neg hne.symm

namespace Library

variable {library middle after : Library} {writes more : List Write}

/-- The library `after` has come about from `library` by writes that add tracks only where they have
not been, each of them once. -/
structure AddsOnce (library after : Library) (writes : List Write) : Prop where
  /-- The writes are recorded after the earlier ones. -/
  writes_eq : after.writes = library.writes ++ writes
  /-- Nothing is replaced. -/
  replace_not_mem : ∀ id tracks, Write.replace id tracks ∉ writes
  /-- Every playlist has the tracks that it had and then those that were added to it. -/
  tracksAt_eq : ∀ id, after.tracksAt id = library.tracksAt id ++ addedTo id writes
  /-- No track is added to a playlist twice. -/
  nodup : ∀ id, (addedTo id writes).Nodup
  /-- No track is added to a playlist that had it. -/
  disjoint : ∀ id, (library.tracksAt id).Disjoint (addedTo id writes)

theorem AddsOnce.refl (library : Library) : library.AddsOnce library [] where
  writes_eq := (List.append_nil _).symm
  replace_not_mem := fun _ _ => List.not_mem_nil
  tracksAt_eq := fun _ => (List.append_nil _).symm
  nodup := fun _ => List.nodup_nil
  disjoint := fun _ => List.disjoint_nil_right _

/-- What is added later is new to a playlist with all that was added before. -/
theorem AddsOnce.trans (h : library.AddsOnce middle writes) (hmore : middle.AddsOnce after more) :
    library.AddsOnce after (writes ++ more) := by
  have hdisjoint : ∀ id, (library.tracksAt id).Disjoint (addedTo id more) ∧
      (addedTo id writes).Disjoint (addedTo id more) := by
    intro id
    have hmiddle := hmore.disjoint id
    rwa [h.tracksAt_eq, List.disjoint_append_left] at hmiddle
  refine
    { writes_eq := by rw [hmore.writes_eq, h.writes_eq, List.append_assoc]
      replace_not_mem := fun id tracks hmem => ?_
      tracksAt_eq := fun id => ?_
      nodup := fun id => ?_
      disjoint := fun id => ?_ }
  · exact (List.mem_append.1 hmem).elim (h.replace_not_mem id tracks)
      (hmore.replace_not_mem id tracks)
  · rw [hmore.tracksAt_eq, h.tracksAt_eq, addedTo_append, List.append_assoc]
  · rw [addedTo_append]
    exact (h.nodup id).append (hmore.nodup id) (hdisjoint id).2
  · rw [addedTo_append, List.disjoint_append_right]
    exact ⟨h.disjoint id, (hdisjoint id).1⟩

theorem exists_addsOnce_withNamed (library : Library) (newId : IdSource) (name : String) :
    ∃ writes, library.AddsOnce (library.withNamed newId name) writes := by
  cases hfind : library.firstNamed? name with
  | some stored =>
    rw [withNamed_of_isSome (by simp [hfind])]
    exact ⟨[], .refl library⟩
  | none =>
    rw [withNamed_of_eq_none hfind]
    exact ⟨[.create name false],
      { writes_eq := rfl
        replace_not_mem := by simp
        tracksAt_eq := fun id =>
          (tracksAt_withNew library newId name id).trans (List.append_nil _).symm
        nodup := fun _ => List.nodup_nil
        disjoint := fun _ => List.disjoint_nil_right _ }⟩

/-- Adding pieces of tracks to a playlist that has none of them adds fresh tracks. -/
theorem addsOnce_added {id : String} {pieces : List (List String)} (hid : id ∈ library.ids)
    (hnodup : pieces.flatten.Nodup) (hfresh : (library.tracksAt id).Disjoint pieces.flatten) :
    library.AddsOnce (library.added id pieces) (pieces.map (.add id)) := by
  refine
    { writes_eq := rfl
      replace_not_mem := by simp
      tracksAt_eq := fun other => ?_
      nodup := fun other => ?_
      disjoint := fun other => ?_ }
  all_goals by_cases hother : other = id
  · rw [hother, tracksAt_added_self hid, addedTo_map_add_self]
  · rw [tracksAt_added_of_ne library hother, addedTo_map_add_of_ne hother, List.append_nil]
  · rwa [hother, addedTo_map_add_self]
  · rw [addedTo_map_add_of_ne hother]
    exact List.nodup_nil
  · rwa [hother, addedTo_map_add_self]
  · rw [addedTo_map_add_of_ne hother]
    exact List.disjoint_nil_right _

end Library

namespace Curation

variable {library : Library}

/-- A merge adds fresh tracks only, whatever the outage. -/
theorem exists_addsOnce_run_merge (plan : MergePlan) (newId : IdSource) (outage : Outage)
    (hsynced : library.IsSynced) :
    ∃ writes, library.AddsOnce ((merge plan).run newId outage library).library writes := by
  obtain ⟨target, htarget, hsame | ⟨count, hadded⟩⟩ :=
    exists_library_run_merge plan newId outage hsynced
  · rw [hsame]
    exact ⟨[], .refl library⟩
  · obtain ⟨writes, hwrites⟩ := library.exists_addsOnce_withNamed newId plan.targetName
    rw [hadded]
    generalize library.withNamed newId plan.targetName = base at *
    -- The tracks of the first pieces are some of the batch, which repeats nothing and leaves out
    -- the tracks of the target.
    have hbegin : ((chunks maxTracksPerCall (plan.batch base target.playlist.id)).take
        count).flatten <+: plan.batch base target.playlist.id := by
      rw [flatten_take_chunks]
      exact List.take_prefix _ _
    have hfresh : (base.tracksAt target.playlist.id).Disjoint
        (plan.batch base target.playlist.id) :=
      fun track hpresent htrack => (mem_appendBatch.1 htrack).2.1 hpresent
    exact ⟨_, hwrites.trans (Library.addsOnce_added (Library.id_mem_of_firstNamed? htarget)
      ((nodup_appendBatch _ _ _).sublist hbegin.sublist)
      (List.disjoint_of_subset_right hbegin.subset hfresh))⟩

/-- Merges in a row, each with an outage of its own, add to no playlist a track twice or one that it
had before the first of them, and they replace nothing. -/
theorem exists_addsOnce_afterAttempts (settings : Settings) {attempts : List Attempt}
    (hreach : library.Reachable)
    (hmerges : ∀ attempt ∈ attempts, (attempt.job.plan? settings).isSome) :
    ∃ writes, library.AddsOnce (afterAttempts settings attempts library) writes := by
  -- By induction on the attempts; each leaves a library that can come about.
  induction attempts generalizing library with
  | nil => exact ⟨[], .refl library⟩
  | cons attempt rest ih =>
    rw [List.forall_mem_cons] at hmerges
    obtain ⟨plan, hplan⟩ := Option.isSome_iff_exists.1 hmerges.1
    obtain ⟨writes, hwrites⟩ :=
      exists_addsOnce_run_merge plan attempt.newId attempt.outage hreach.isSynced
    have hreached := reachable_library_run hreach attempt.newId attempt.outage (merge plan)
    obtain ⟨more, hmore⟩ := ih hreached hmerges.2
    rw [afterAttempts_cons, attempt.library_run_eq_of_plan? hplan]
    exact ⟨writes ++ more, hwrites.trans hmore⟩

/-- Three merges in a row: one of the daily mixes whose tracks do not get through, the same one
again, and one of the subscribed playlists. -/
def mixAttempts : List Attempt := [
  ⟨.daily, .ofCandidate "new", .still, .ofFaults [⟨Call.isAdd, 1, "offline"⟩]⟩,
  ⟨.daily, .ofCandidate "new", .still, .none⟩,
  ⟨.subscriptions, .ofCandidate "new", .still, .none⟩]

/-- On `mixLibrary` these merges add two tracks, once. -/
theorem addsOnce_afterAttempts_mixLibrary :
    mixLibrary.Reachable ∧
      (∀ attempt ∈ mixAttempts, (attempt.job.plan? {}).isSome) ∧
      (∃ writes, mixLibrary.AddsOnce (afterAttempts {} mixAttempts mixLibrary) writes) ∧
      (afterAttempts {} mixAttempts mixLibrary).writes =
        [.add "now" ["a", "c"], .create "New Subscriptions" false] := by
  have hreach : mixLibrary.Reachable := .ofSnapshot _
  have hmerges : ∀ attempt ∈ mixAttempts, (attempt.job.plan? {}).isSome := by
    simp [mixAttempts, Job.plan?]
  exact ⟨hreach, hmerges, exists_addsOnce_afterAttempts {} hreach hmerges, by decide +kernel⟩

end Curation

end PlaylistCurator
