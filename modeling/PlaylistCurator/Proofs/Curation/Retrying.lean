import PlaylistCurator.Proofs.Curation.Attempts

/-!
# Merging until it succeeds

A merge that was interrupted can be done again: it goes on where it was interrupted. However many
attempts fail, and wherever, the first one without an outage ends with the playlists that a single
merge without an outage would have left. What carries this is that an interrupted merge is underway:

* `MergePlan.IsUnderway`: nothing has been done, or the target has some first of the missing tracks;
* `MergePlan.missing_of_hasAdded`: then the other ones are missing;
* `sameButNewIds_afterAttempts`: the outcome.
-/

namespace PlaylistCurator

/-- A stored playlist but for its id. -/
def StoredPlaylist.withoutId (stored : StoredPlaylist) : StoredPlaylist :=
  { stored with playlist := { stored.playlist with id := "" } }

namespace Library

variable {newId nextId : IdSource} {library one other : Library}

/-- The libraries `one` and `other` have come about from `library` and hold the same playlists in the
same order, but for the ids of those that `library` did not have. -/
structure SameButNewIds (library one other : Library) : Prop where
  /-- All but the ids is the same. -/
  playlists_eq : one.playlists.map StoredPlaylist.withoutId =
    other.playlists.map StoredPlaylist.withoutId
  /-- The one has the ids of the library in their places. -/
  ids_prefix_one : library.ids <+: one.ids
  /-- So has the other. -/
  ids_prefix_other : library.ids <+: other.ids

theorem map_withoutId_addFirst {wanted : StoredPlaylist → Bool} {tracks : List String}
    {playlists : List StoredPlaylist} (hwanted : ∀ stored, wanted stored.withoutId = wanted stored) :
    (addFirst wanted tracks playlists).map StoredPlaylist.withoutId =
      addFirst wanted tracks (playlists.map StoredPlaylist.withoutId) := by
  induction playlists with
  | nil => rfl
  | cons stored rest ih =>
    by_cases h : wanted stored
    · simp only [addFirst, List.map_cons, hwanted, h, ↓reduceIte, List.cons.injEq, and_true]
      rfl
    · simp [addFirst, hwanted, h, ih]

theorem map_withoutId_withNamed (library : Library) (newId nextId : IdSource) (name : String) :
    (library.withNamed newId name).playlists.map StoredPlaylist.withoutId =
      (library.withNamed nextId name).playlists.map StoredPlaylist.withoutId := by
  cases hfind : library.firstNamed? name with
  | some stored =>
    rw [withNamed_of_isSome (by simp [hfind]), withNamed_of_isSome (by simp [hfind])]
  | none =>
    rw [withNamed_of_eq_none hfind, withNamed_of_eq_none hfind, playlists_withNew,
      playlists_withNew, List.map_append, List.map_append]
    rfl

/-- Adding the same tracks to the first playlist of a name leaves the same playlists but for the id of
one that is created. -/
theorem HasAdded.sameButNewIds {name : String} {tracks : List String}
    (hone : library.HasAdded newId name tracks one)
    (hother : library.HasAdded nextId name tracks other) : library.SameButNewIds one other where
  playlists_eq := by
    rw [hone.playlists_eq, hother.playlists_eq, map_withoutId_addFirst fun _ => rfl,
      map_withoutId_addFirst fun _ => rfl, map_withoutId_withNamed library newId nextId]
  ids_prefix_one := hone.ids_prefix
  ids_prefix_other := hother.ids_prefix

end Library

namespace Curation

open Dialogue

variable {newId : IdSource} {library current : Library}

namespace MergePlan

variable {plan : MergePlan}

/-- The tracks that a merge has to add to the target, which may be missing itself. -/
def missing (plan : MergePlan) (library : Library) : List String :=
  plan.newTracks library ((library.trackIdsNamed? plan.targetName).getD [])

/-- The target has the tracks that the first playlist of its name had, if there was one. -/
theorem trackIds_target {target : StoredPlaylist}
    (htarget :
      (library.withNamed newId plan.targetName).firstNamed? plan.targetName = some target) :
    target.trackIds = (library.trackIdsNamed? plan.targetName).getD [] := by
  rw [Library.trackIdsNamed?_eq_map]
  cases hfind : library.firstNamed? plan.targetName with
  | some stored =>
    rw [Library.withNamed_of_isSome (by simp [hfind]), hfind] at htarget
    rw [Option.some.inj htarget]
    rfl
  | none =>
    rw [Library.withNamed_of_eq_none hfind, Library.firstNamed?_withNew hfind] at htarget
    rw [← Option.some.inj htarget]
    rfl

/-- A merge adds all missing tracks. -/
theorem IsMerge.added_eq_missing {target : StoredPlaylist} {report : MergeReport} {after : Library}
    (h : plan.IsMerge newId library target report after) : report.added = plan.missing library := by
  rw [h.added_eq, trackIds_target h.isTarget, missing]

/-- Where ids are distinct, tracks that are added to the first playlist with the name of the target do
not change the tracks of sources and exclusions. -/
theorem tracksWithRole_of_hasAdded (hids : library.ids.Nodup) {tracks : List String}
    (h : library.HasAdded newId plan.targetName tracks current) {role : Role}
    (hrole : role ≠ .target) : plan.tracksWithRole role current = plan.tracksWithRole role library := by
  -- A playlist with the name of the target has no other role.
  have hfilter : current.playlists.filter (plan.role ·.playlist = role) =
      library.playlists.filter (plan.role ·.playlist = role) := by
    refine h.filter_eq (fun _ => rfl) fun stored hname => ?_
    rw [plan.role_of_name_eq hname]
    exact decide_eq_false hrole.symm
  rw [tracksWithRole_eq_map (h.nodup_ids hids), tracksWithRole_eq_map hids, hfilter]

/-- Once the target has the first of the missing tracks, the other ones are missing. -/
theorem missing_of_hasAdded (hids : library.ids.Nodup) {count : Nat}
    (h : library.HasAdded newId plan.targetName ((plan.missing library).take count) current) :
    plan.missing current = (plan.missing library).drop count := by
  obtain ⟨target, htarget⟩ := Option.isSome_iff_exists.1
    (library.isSome_firstNamed?_withNamed newId plan.targetName)
  have hpresent : (current.trackIdsNamed? plan.targetName).getD [] =
      (library.trackIdsNamed? plan.targetName).getD [] ++ (plan.missing library).take count := by
    rw [← trackIds_target htarget, Library.trackIdsNamed?_eq_map, h.firstNamed?_eq, htarget]
    exact StoredPlaylist.trackIds_withAdded target _
  rw [missing, ← appendBatch_eq_newTracks (h.nodup_ids hids),
    tracksWithRole_of_hasAdded hids h (by decide), tracksWithRole_of_hasAdded hids h (by decide),
    hpresent, missing, ← appendBatch_eq_newTracks hids]
  exact appendBatch_append_take _ _ _ count

/-- A merge is underway: `current` is `library` itself, or there the target has been found or created
and has some first of the missing tracks. -/
def IsUnderway (plan : MergePlan) (library current : Library) : Prop :=
  current = library ∨ ∃ newId count,
    library.HasAdded newId plan.targetName ((plan.missing library).take count) current

end MergePlan

/-- Whatever the outage, a merge is underway in the end. -/
theorem isUnderway_run_merge (plan : MergePlan) (newId : IdSource) (outage : Outage)
    (hsynced : library.IsSynced) (hids : library.ids.Nodup) :
    plan.IsUnderway library ((merge plan).run newId outage library).library := by
  obtain ⟨target, htarget, hsame | ⟨count, hadded⟩⟩ :=
    exists_library_run_merge plan newId outage hsynced
  · exact .inl hsame
  · right
    refine ⟨newId, maxTracksPerCall * count, ?_⟩
    have hpieces := Library.hasAdded_added hids htarget ((chunks maxTracksPerCall
      (plan.batch (library.withNamed newId plan.targetName) target.playlist.id)).take count)
    rw [flatten_take_chunks] at hpieces
    -- The first pieces of the batch hold the first of the missing tracks.
    rw [hadded, MergePlan.missing, ← MergePlan.trackIds_target htarget,
      ← MergePlan.batch_withNamed_eq_newTracks hids plan newId htarget]
    exact hpieces

/-- Without an outage a merge succeeds and adds all missing tracks. -/
theorem hasAdded_run_merge (plan : MergePlan) (newId : IdSource) (hsynced : library.IsSynced)
    (hids : library.ids.Nodup) :
    (∃ report, ((merge plan).run newId .none library).result = .ok report) ∧
      library.HasAdded newId plan.targetName (plan.missing library)
        ((merge plan).run newId .none library).library := by
  obtain ⟨target, report, hok, hmerge⟩ := isMerged_run_merge plan newId hsynced hids
  exact ⟨⟨report, hok⟩, hmerge.added_eq_missing ▸ hmerge.hasAdded⟩

/-- A merge that is underway stays underway when it is tried again. -/
theorem MergePlan.IsUnderway.run_merge {plan : MergePlan} (h : plan.IsUnderway library current)
    (hids : library.ids.Nodup) (hcurrent : current.ids.Nodup) (hsynced : current.IsSynced)
    (nextId : IdSource) (outage : Outage) :
    plan.IsUnderway library ((merge plan).run nextId outage current).library := by
  have hnext := isUnderway_run_merge plan nextId outage hsynced hcurrent
  rcases h with rfl | ⟨newId, count, hadded⟩
  · exact hnext
  · rcases hnext with hsame | ⟨moreId, more, hmore⟩
    · rw [hsame]
      exact .inr ⟨newId, count, hadded⟩
    · -- The second attempt goes on in the tracks that the first one was to add.
      rw [MergePlan.missing_of_hasAdded hids hadded] at hmore
      have hboth := hadded.trans hmore
      rw [← List.take_add] at hboth
      exact .inr ⟨newId, count + more, hboth⟩

/-- Without an outage a merge that is underway adds the tracks that are still missing. -/
theorem MergePlan.IsUnderway.hasAdded_run_merge {plan : MergePlan}
    (h : plan.IsUnderway library current) (hids : library.ids.Nodup) (hcurrent : current.ids.Nodup)
    (hsynced : current.IsSynced) (nextId : IdSource) :
    (∃ report, ((merge plan).run nextId .none current).result = .ok report) ∧
      ∃ newId, library.HasAdded newId plan.targetName (plan.missing library)
        ((merge plan).run nextId .none current).library := by
  obtain ⟨hok, hrest⟩ := Curation.hasAdded_run_merge plan nextId hsynced hcurrent
  refine ⟨hok, ?_⟩
  rcases h with rfl | ⟨newId, count, hadded⟩
  · exact ⟨nextId, hrest⟩
  · rw [MergePlan.missing_of_hasAdded hids hadded] at hrest
    have hboth := hadded.trans hrest
    rw [List.take_append_drop] at hboth
    exact ⟨newId, hboth⟩

theorem isUnderway_afterAttempts {settings : Settings} {plan : MergePlan} {attempts : List Attempt}
    (hplan : ∀ attempt ∈ attempts, attempt.job.plan? settings = some plan)
    (hids : library.ids.Nodup) (hreach : current.Reachable) (hcurrent : current.ids.Nodup)
    (h : plan.IsUnderway library current) :
    plan.IsUnderway library (afterAttempts settings attempts current) ∧
      (afterAttempts settings attempts current).Reachable ∧
      (afterAttempts settings attempts current).ids.Nodup := by
  induction attempts generalizing current with
  | nil => exact ⟨h, hreach, hcurrent⟩
  | cons attempt rest ih =>
    -- What the first attempt leaves is as good a beginning for the others.
    rw [List.forall_mem_cons] at hplan
    rw [afterAttempts_cons, attempt.library_run_eq_of_plan? hplan.1]
    exact ih hplan.2 (reachable_library_run hreach _ _ _) (nodup_ids_library_run hcurrent _ _ _)
      (h.run_merge hids hcurrent hreach.isSynced _ _)

/-- However many attempts at a merge fail, and wherever, an attempt without an outage then succeeds and
leaves the same playlists as if it had been the only one, but for the id of a created target. -/
theorem sameButNewIds_afterAttempts (settings : Settings) {job : Job} {attempts : List Attempt}
    (hmerge : (job.plan? settings).isSome) (hjob : ∀ attempt ∈ attempts, attempt.job = job)
    (hreach : library.Reachable) (hids : library.ids.Nodup) (shuffle : Shuffle)
    (lastId onlyId : IdSource) :
    (∃ product, ((job.dialogue settings shuffle).run lastId .none
        (afterAttempts settings attempts library)).result = .ok product) ∧
      library.SameButNewIds
        ((job.dialogue settings shuffle).run lastId .none
          (afterAttempts settings attempts library)).library
        ((job.dialogue settings shuffle).run onlyId .none library).library := by
  obtain ⟨plan, hplan⟩ := Option.isSome_iff_exists.1 hmerge
  have hplans : ∀ attempt ∈ attempts, attempt.job.plan? settings = some plan :=
    fun attempt hattempt => hjob attempt hattempt ▸ hplan
  -- What the attempts leave is on its way from the library to the end of the merge.
  obtain ⟨hunderway, hreached, hnodup⟩ :=
    isUnderway_afterAttempts hplans hids hreach hids (.inl rfl)
  obtain ⟨hok, newId, hlast⟩ :=
    hunderway.hasAdded_run_merge hids hnodup hreached.isSynced lastId
  -- Both merges have added the same tracks to the library before the attempts.
  obtain ⟨-, honly⟩ := hasAdded_run_merge plan onlyId hreach.isSynced hids
  cases job with
  | daily | subscriptions =>
    obtain rfl := Option.some.inj hplan
    exact ⟨hok, hlast.sameButNewIds honly⟩
  | list | copy | randomize => cases hplan

/-- A library without a target, whose daily mix has more tracks than a single call may carry. -/
def longMixLibrary : Library := .ofSnapshot
  { userId := "user"
    playlists := [
      { playlist := { id := "m1", name := some "Daily Mix 1", owner := { id := "service" } }
        items := (List.range 101).map fun track => .ofTrack (toString track) }] }

/-- Two merges that fail: one when it is to create the target, the other when it is to add the last
track. -/
def failedMerges : List Attempt := [
  ⟨.daily, .ofCandidate "new", .still, .ofFaults [⟨Call.isWrite, 1, "offline"⟩]⟩,
  ⟨.daily, .ofCandidate "new", .still, .ofFaults [⟨Call.isAdd, 2, "offline"⟩]⟩]

/-- On `longMixLibrary` the merge after those two adds the last track and ends as it should. -/
theorem sameButNewIds_afterAttempts_longMixLibrary :
    longMixLibrary.Reachable ∧ longMixLibrary.ids.Nodup ∧ (Job.daily.plan? {}).isSome ∧
      (∀ attempt ∈ failedMerges, attempt.job = .daily) ∧
      longMixLibrary.SameButNewIds
        ((Job.daily.dialogue {} .still).run (.ofCandidate "last") .none
          (afterAttempts {} failedMerges longMixLibrary)).library
        ((Job.daily.dialogue {} .still).run (.ofCandidate "only") .none longMixLibrary).library ∧
      ((afterAttempts {} failedMerges longMixLibrary).trackIdsNamed? "Now").map List.length =
        some 100 ∧
      ((Job.daily.dialogue {} .still).run (.ofCandidate "last") .none
        (afterAttempts {} failedMerges longMixLibrary)).library.trackIdsNamed? "Now" =
          some ((List.range 101).map toString) := by
  have hreach : longMixLibrary.Reachable := .ofSnapshot _
  have hids : longMixLibrary.ids.Nodup := by decide +kernel
  have hjob : ∀ attempt ∈ failedMerges, attempt.job = .daily := by simp [failedMerges]
  obtain ⟨-, hsame⟩ := sameButNewIds_afterAttempts {} rfl hjob hreach hids .still
    (.ofCandidate "last") (.ofCandidate "only")
  exact ⟨hreach, hids, rfl, hjob, hsame, by decide +kernel⟩

end Curation

end PlaylistCurator
