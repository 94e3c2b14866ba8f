import PlaylistCurator.Proofs.Curation.Retrying

/-!
# Merges in either order

The merges of the daily mixes and of the subscribed playlists share the listing, the exclusions and
possibly sources, and each may create a playlist that the other one then lists. Where the target of
neither has a role in the other one, it does not matter which of them is done first. A merge depends
on a library only through the playlists that have a role in it, and it changes only what is under the
name of its target:

* `MergePlan.SeesSame`, `MergePlan.IsMerge.sameReports`: two libraries that are the same to a merge,
  and that it reports the same on them;
* `Library.SameUnderNames`, `Library.sameUnderNames_of_hasAdded`: two libraries that hold the same
  under every name, and that additions under two names lead to such.

Main statement:

* `sameInEitherOrder_inTurn`: both orders lead to the same reports and playlists.
-/

namespace PlaylistCurator

namespace Library

variable {newId nextId : IdSource} {library after one other : Library} {name : String}
  {tracks more : List String}

/-! ## Names -/

/-- The stored playlists under a name, or those without one. -/
def named (library : Library) (name : Option String) : List StoredPlaylist :=
  library.playlists.filter (·.playlist.name == name)

/-- The first playlist of a name is the first one under it. -/
theorem firstNamed?_eq_head? (library : Library) (name : String) :
    library.firstNamed? name = (library.named (some name)).head? := by
  rw [named, List.head?_filter, firstNamed?]

/-- The libraries `one` and `other` have come about from `library` and hold the same playlists under
every name, but for the ids of those that `library` did not have. -/
structure SameUnderNames (library one other : Library) : Prop where
  /-- In the places of the playlists of the library there are the same ones, ids included. -/
  take_eq : one.playlists.take library.playlists.length =
    other.playlists.take library.playlists.length
  /-- Under every name there are the same playlists in the same order, but for their ids. -/
  named_eq : ∀ name, (one.named name).map StoredPlaylist.withoutId =
    (other.named name).map StoredPlaylist.withoutId
  /-- The one has the ids of the library in their places. -/
  ids_prefix_one : library.ids <+: one.ids
  /-- So has the other. -/
  ids_prefix_other : library.ids <+: other.ids

/-- Under the other names everything is as it was before tracks were added. -/
theorem HasAdded.named_of_ne (h : library.HasAdded newId name tracks after) {key : Option String}
    (hkey : key ≠ some name) : after.named key = library.named key :=
  h.filter_eq (fun _ => rfl) fun _ hname => beq_eq_false_iff_ne.2 (hname ▸ hkey.symm)

theorem named_withNew (library : Library) (newId : IdSource) (name : String) :
    (library.withNew newId name).named (some name) = library.named (some name) ++
      [{ playlist := newPlaylist (newId library.ids).1 library.snapshot.userId name false }] := by
  simp [named, newPlaylist]

/-- What finding or creating a playlist leaves under its name is determined by what was there. -/
theorem map_withoutId_named_withNamed (huser : one.snapshot.userId = other.snapshot.userId)
    (hsame : one.named (some name) = other.named (some name)) (newId nextId : IdSource) :
    ((one.withNamed newId name).named (some name)).map StoredPlaylist.withoutId =
      ((other.withNamed nextId name).named (some name)).map StoredPlaylist.withoutId := by
  have hfirst : one.firstNamed? name = other.firstNamed? name := by
    rw [firstNamed?_eq_head?, hsame, firstNamed?_eq_head?]
  cases hfind : other.firstNamed? name with
  | some stored =>
    rw [withNamed_of_isSome (by simp [hfirst, hfind]), withNamed_of_isSome (by simp [hfind]), hsame]
  | none =>
    -- Both create a playlist, and the two differ only in their ids.
    rw [withNamed_of_eq_none (hfirst.trans hfind), withNamed_of_eq_none hfind, named_withNew,
      named_withNew, hsame, huser, List.map_append, List.map_append]
    rfl

/-- What tracks that are added lead to under the name is determined by what was there. -/
theorem HasAdded.map_withoutId_named {afterOne afterOther : Library}
    (hone : one.HasAdded newId name tracks afterOne)
    (hother : other.HasAdded nextId name tracks afterOther)
    (huser : one.snapshot.userId = other.snapshot.userId)
    (hsame : one.named (some name) = other.named (some name)) :
    (afterOne.named (some name)).map StoredPlaylist.withoutId =
      (afterOther.named (some name)).map StoredPlaylist.withoutId := by
  -- The tracks go to the first playlist under the name, which no other one can change.
  rw [named, named, hone.playlists_eq, hother.playlists_eq, filter_addFirst_self fun _ => rfl,
    filter_addFirst_self fun _ => rfl, map_withoutId_addFirst fun _ => rfl,
    map_withoutId_addFirst fun _ => rfl]
  exact congrArg _ (map_withoutId_named_withNamed huser hsame newId nextId)

/-- A beginning of the playlists gets the tracks as if there were no others. -/
theorem HasAdded.take_eq (h : library.HasAdded newId name tracks after) {count : Nat}
    (hcount : count ≤ library.playlists.length) :
    after.playlists.take count =
      addFirst (·.playlist.name == some name) tracks (library.playlists.take count) := by
  obtain ⟨created, hcreated⟩ := library.playlists_prefix_withNamed newId name
  rw [h.playlists_eq, take_addFirst, ← hcreated, List.take_append_of_le_length hcount]

/-- Tracks that are added under two names lead to the same under every name in either order. -/
theorem sameUnderNames_of_hasAdded {key : String} (hne : name ≠ key)
    {firstId secondId : IdSource} {oneThenOther otherThenOne : Library}
    (hone : library.HasAdded newId name tracks one)
    (hthenOther : one.HasAdded nextId key more oneThenOther)
    (hother : library.HasAdded firstId key more other)
    (hthenOne : other.HasAdded secondId name tracks otherThenOne) :
    library.SameUnderNames oneThenOther otherThenOne where
  take_eq := by
    have hlengthOne := hone.ids_prefix.length_le
    have hlengthOther := hother.ids_prefix.length_le
    rw [ids, ids, List.length_map, List.length_map] at hlengthOne hlengthOther
    rw [hthenOther.take_eq hlengthOne, hone.take_eq (Nat.le_refl _), hthenOne.take_eq hlengthOther,
      hother.take_eq (Nat.le_refl _)]
    -- No playlist has both names.
    refine addFirst_comm (fun _ => rfl) (fun _ => rfl) fun stored hstored => ?_
    rw [beq_iff_eq] at hstored
    rw [hstored]
    exact beq_eq_false_iff_ne.2 fun heq => hne (Option.some.inj heq)
  named_eq := by
    intro label
    -- Under the one name only the one addition counts, whenever it is made, and under the other name
    -- only the other one.
    by_cases hlabel : label = some name
    · have hlabelKey : label ≠ some key := fun heq => hne (Option.some.inj (hlabel.symm.trans heq))
      rw [hthenOther.named_of_ne hlabelKey, hlabel]
      refine hone.map_withoutId_named hthenOne hother.userId_eq.symm ?_
      exact (hother.named_of_ne (hlabel ▸ hlabelKey)).symm
    · rw [hthenOne.named_of_ne hlabel]
      by_cases hlabelKey : label = some key
      · rw [hlabelKey]
        refine hthenOther.map_withoutId_named hother hone.userId_eq ?_
        exact hone.named_of_ne (hlabelKey ▸ hlabel)
      · rw [hthenOther.named_of_ne hlabelKey, hone.named_of_ne hlabel, hother.named_of_ne hlabelKey]
  ids_prefix_one := hone.ids_prefix.trans hthenOther.ids_prefix
  ids_prefix_other := hother.ids_prefix.trans hthenOne.ids_prefix

end Library

namespace Curation

open Dialogue

variable {newId nextId : IdSource} {library other after : Library}

/-! ## What a merge sees -/

namespace MergePlan

variable {plan : MergePlan} {name : String}

/-- Playlists of a name have no role in a merge. -/
structure Ignores (plan : MergePlan) (name : String) : Prop where
  /-- The name is not the target's. -/
  ne_targetName : name ≠ plan.targetName
  /-- The name does not start with the prefix of the sources. -/
  not_sourcePrefix : ¬ plan.sourcePrefix.toList <+: name.toList
  /-- The name does not start with the prefix of the exclusions. -/
  not_exclusionPrefix : ¬ plan.exclusionPrefix.toList <+: name.toList

theorem Ignores.role_eq (h : plan.Ignores name) {playlist : Playlist}
    (hname : playlist.name = some name) : plan.role playlist = .bystander := by
  simp [role, startsWith, hname, h.ne_targetName, h.not_sourcePrefix, h.not_exclusionPrefix]

/-- A playlist has the role of the target exactly if it has its name. -/
theorem role_eq_target_iff (plan : MergePlan) (playlist : Playlist) :
    plan.role playlist = .target ↔ playlist.name = some plan.targetName := by
  refine ⟨fun hrole => ?_, plan.role_of_name_eq⟩
  unfold role at hrole
  split at hrole
  · cases hrole
  · split_ifs at hrole with hname
    rw [‹playlist.name = _›, hname]

/-- Two libraries are the same to a merge: they belong to the same user, and the playlists that have
a role are the same. -/
structure SeesSame (plan : MergePlan) (library other : Library) : Prop where
  /-- The user is the same. -/
  userId_eq : library.snapshot.userId = other.snapshot.userId
  /-- The same playlists have a role, in the same order. -/
  filter_eq : ∀ role ≠ .bystander,
    library.playlists.filter (plan.role ·.playlist = role) =
      other.playlists.filter (plan.role ·.playlist = role)

/-- A merge does not see that tracks are added under a name without a role. -/
theorem Ignores.seesSame (h : plan.Ignores name) {tracks : List String}
    (hadded : library.HasAdded newId name tracks after) : plan.SeesSame library after where
  userId_eq := hadded.userId_eq.symm
  filter_eq := by
    intro role hrole
    refine (hadded.filter_eq (fun _ => rfl) fun stored hname => ?_).symm
    rw [h.role_eq hname]
    exact decide_eq_false hrole.symm

namespace SeesSame

theorem named_eq (h : plan.SeesSame library other) :
    library.named (some plan.targetName) = other.named (some plan.targetName) := by
  -- Being under the name of the target is a role, which both libraries agree on.
  have hrole : ∀ stored : StoredPlaylist, (stored.playlist.name == some plan.targetName) =
      decide (plan.role stored.playlist = .target) := fun stored => by
    rw [beq_eq_decide]
    exact decide_eq_decide.2 (plan.role_eq_target_iff stored.playlist).symm
  simp only [Library.named, hrole]
  exact h.filter_eq .target (by decide)

theorem firstNamed?_eq (h : plan.SeesSame library other) :
    library.firstNamed? plan.targetName = other.firstNamed? plan.targetName := by
  rw [Library.firstNamed?_eq_head?, h.named_eq, Library.firstNamed?_eq_head?]

theorem sources_eq (h : plan.SeesSame library other) : plan.sources library = plan.sources other := by
  rw [← filter_role_source, ← filter_role_source]
  exact h.filter_eq .source (by decide)

/-- A merge has to add the same tracks. -/
theorem missing_eq (h : plan.SeesSame library other) (hids : library.ids.Nodup)
    (hother : other.ids.Nodup) : plan.missing library = plan.missing other := by
  have hroles : ∀ role ≠ .bystander,
      plan.tracksWithRole role library = plan.tracksWithRole role other := by
    intro role hrole
    rw [tracksWithRole_eq_map hids, tracksWithRole_eq_map hother, h.filter_eq role hrole]
  rw [missing, missing, ← appendBatch_eq_newTracks hids, ← appendBatch_eq_newTracks hother,
    hroles .source (by decide), hroles .exclusion (by decide), Library.trackIdsNamed?_eq_map,
    Library.trackIdsNamed?_eq_map, h.firstNamed?_eq]

end SeesSame

/-! ## What a merge reports -/

/-- Two merges into the first playlist of a name report the same, but for the id of a target that had
to be created. In the end the one has left the library `one` and the other the library `other`. -/
structure SameReports (name : String) (library one other : Library) (report again : MergeReport) :
    Prop where
  /-- There are as many sources. -/
  sourceCount_eq : report.sourceCount = again.sourceCount
  /-- The sources have as many tracks. -/
  candidateCount_eq : report.candidateCount = again.candidateCount
  /-- The same tracks are added. -/
  added_eq : report.added = again.added
  /-- The warnings are the same. -/
  warnings_eq : report.warnings = again.warnings
  /-- The target is the same, unless it had to be created. -/
  targetId_eq : (library.firstNamed? name).isSome → report.targetId = again.targetId
  /-- The one report names the first playlist of the name. -/
  isTarget_one : (one.firstNamed? name).map (·.playlist.id) = some report.targetId
  /-- So does the other. -/
  isTarget_other : (other.firstNamed? name).map (·.playlist.id) = some again.targetId

theorem SameReports.symm {one : Library} {report again : MergeReport}
    (h : SameReports name library one other report again) :
    SameReports name library other one again report where
  sourceCount_eq := h.sourceCount_eq.symm
  candidateCount_eq := h.candidateCount_eq.symm
  added_eq := h.added_eq.symm
  warnings_eq := h.warnings_eq.symm
  targetId_eq := fun hsome => (h.targetId_eq hsome).symm
  isTarget_one := h.isTarget_other
  isTarget_other := h.isTarget_one

section IsMerge

variable {target second : StoredPlaylist} {report again : MergeReport} {afterOther : Library}

/-- A target that was there is the reported one. -/
theorem IsMerge.targetId_eq_of_firstNamed? (h : plan.IsMerge newId library target report after)
    {stored : StoredPlaylist} (hstored : library.firstNamed? plan.targetName = some stored) :
    report.targetId = stored.playlist.id := by
  have htarget := h.isTarget
  rw [Library.withNamed_of_isSome (by simp [hstored]), hstored] at htarget
  rw [h.targetId_eq, Option.some.inj htarget]

/-- The reported target is the first of its name afterwards. -/
theorem IsMerge.map_id_firstNamed? (h : plan.IsMerge newId library target report after) :
    (after.firstNamed? plan.targetName).map (·.playlist.id) = some report.targetId := by
  rw [h.target_after, h.targetId_eq]
  rfl

/-- It stays so when tracks are added under another name. -/
theorem IsMerge.map_id_firstNamed?_of_hasAdded (h : plan.IsMerge newId library target report after)
    (hne : name ≠ plan.targetName) {tracks : List String} {final : Library}
    (hadded : after.HasAdded nextId name tracks final) :
    (final.firstNamed? plan.targetName).map (·.playlist.id) = some report.targetId := by
  rw [Library.firstNamed?_eq_head?, hadded.named_of_ne fun heq => hne (Option.some.inj heq).symm,
    ← Library.firstNamed?_eq_head?, h.map_id_firstNamed?]

/-- On libraries that are the same to it a merge reports the same, but for the id of a target that had
to be created. -/
theorem IsMerge.sameReports (hsees : plan.SeesSame library other) (hids : library.ids.Nodup)
    (hother : other.ids.Nodup) {one final : Library}
    (h : plan.IsMerge newId library target report after)
    (hagain : plan.IsMerge nextId other second again afterOther)
    (hone : (one.firstNamed? plan.targetName).map (·.playlist.id) = some report.targetId)
    (hfinal : (final.firstNamed? plan.targetName).map (·.playlist.id) = some again.targetId) :
    SameReports plan.targetName library one final report again := by
  -- The added tracks come first, since the warnings depend on them.
  have hadded : report.added = again.added := by
    rw [h.added_eq_missing, hagain.added_eq_missing, hsees.missing_eq hids hother]
  exact
    { sourceCount_eq := by rw [h.sourceCount_eq, hagain.sourceCount_eq, hsees.sources_eq]
      candidateCount_eq := by rw [h.candidateCount_eq, hagain.candidateCount_eq, hsees.sources_eq]
      added_eq := hadded
      warnings_eq := by rw [h.warnings_eq, hagain.warnings_eq, hsees.sources_eq, hadded]
      targetId_eq := by
        intro hsome
        obtain ⟨stored, hstored⟩ := Option.isSome_iff_exists.1 hsome
        rw [h.targetId_eq_of_firstNamed? hstored,
          hagain.targetId_eq_of_firstNamed? (hsees.firstNamed?_eq ▸ hstored)]
      isTarget_one := hone
      isTarget_other := hfinal }

end IsMerge

end MergePlan

/-! ## Both orders -/

/-- How two merges go that are done one after the other without an outage. -/
def inTurn (first second : Dialogue MergeReport) (firstId secondId : IdSource) (library : Library) :
    Run MergeReport × Run MergeReport :=
  (first.run firstId .none library,
    second.run secondId .none (first.run firstId .none library).library)

/-- It makes no difference which of two merges is done first: both succeed in `forth`, where `one` is
first, and in `back`, where `other` is first, with the same reports and the same playlists under
every name, but for the ids of created playlists. -/
structure SameInEitherOrder (one other : MergePlan) (library : Library)
    (forth back : Run MergeReport × Run MergeReport) : Prop where
  /-- The merge `one` reports the same. -/
  reports_one : ∃ report again,
    forth.1.result = .ok report ∧ back.2.result = .ok again ∧
      MergePlan.SameReports one.targetName library forth.2.library back.2.library report again
  /-- The merge `other` reports the same. -/
  reports_other : ∃ report again,
    forth.2.result = .ok report ∧ back.1.result = .ok again ∧
      MergePlan.SameReports other.targetName library forth.2.library back.2.library report again
  /-- The same playlists are left. -/
  sameUnderNames : library.SameUnderNames forth.2.library back.2.library

/-- Merges that ignore each other's targets can be done in either order. -/
theorem sameInEitherOrder_inTurn_merge {one other : MergePlan} (hone : one.Ignores other.targetName)
    (hother : other.Ignores one.targetName) (hreach : library.Reachable) (hids : library.ids.Nodup)
    (forthId forthNextId backId backNextId : IdSource) :
    SameInEitherOrder one other library
      (inTurn (merge one) (merge other) forthId forthNextId library)
      (inTurn (merge other) (merge one) backId backNextId library) := by
  obtain ⟨_, oneReport, hokOne, hmergeOne⟩ :=
    isMerged_run_merge one forthId hreach.isSynced hids
  obtain ⟨_, otherReport, hokOther, hmergeOther⟩ :=
    isMerged_run_merge other backId hreach.isSynced hids
  -- The second merge of an order finds a library that is as good as the first one.
  have hforthIds := nodup_ids_library_run hids forthId .none (merge one)
  have hbackIds := nodup_ids_library_run hids backId .none (merge other)
  obtain ⟨_, otherAgain, hokOtherAgain, hthenOther⟩ := isMerged_run_merge other forthNextId
    (reachable_library_run hreach forthId .none (merge one)).isSynced hforthIds
  obtain ⟨_, oneAgain, hokOneAgain, hthenOne⟩ := isMerged_run_merge one backNextId
    (reachable_library_run hreach backId .none (merge other)).isSynced hbackIds
  have hreportsOne := hmergeOne.sameReports (hone.seesSame hmergeOther.hasAdded) hids hbackIds
    hthenOne (hmergeOne.map_id_firstNamed?_of_hasAdded hone.ne_targetName hthenOther.hasAdded)
    hthenOne.map_id_firstNamed?
  have hreportsOther := hmergeOther.sameReports (hother.seesSame hmergeOne.hasAdded) hids hforthIds
    hthenOther (hmergeOther.map_id_firstNamed?_of_hasAdded hother.ne_targetName hthenOne.hasAdded)
    hthenOther.map_id_firstNamed?
  exact
    { reports_one := ⟨oneReport, oneAgain, hokOne, hokOneAgain, hreportsOne⟩
      reports_other := ⟨otherAgain, otherReport, hokOtherAgain, hokOther, hreportsOther.symm⟩
      sameUnderNames := Library.sameUnderNames_of_hasAdded hother.ne_targetName hmergeOne.hasAdded
        hthenOther.hasAdded (hreportsOther.added_eq ▸ hmergeOther.hasAdded)
        (hreportsOne.added_eq ▸ hthenOne.hasAdded) }

/-- The daily mixes and the subscribed playlists can be merged in either order, if the target of
neither merge has a role in the other one. -/
theorem sameInEitherOrder_inTurn (settings : Settings) (shuffle : Shuffle)
    (hdaily : (MergePlan.dailyMixes settings).Ignores settings.subscriptionsTarget)
    (hsubscriptions : (MergePlan.subscriptions settings).Ignores settings.dailyMixTarget)
    (hreach : library.Reachable) (hids : library.ids.Nodup)
    (forthId forthNextId backId backNextId : IdSource) :
    SameInEitherOrder (.dailyMixes settings) (.subscriptions settings) library
      (inTurn (Job.daily.dialogue settings shuffle) (Job.subscriptions.dialogue settings shuffle)
        forthId forthNextId library)
      (inTurn (Job.subscriptions.dialogue settings shuffle) (Job.daily.dialogue settings shuffle)
        backId backNextId library) :=
  sameInEitherOrder_inTurn_merge hdaily hsubscriptions hreach hids forthId forthNextId backId
    backNextId

/-- A library with a daily mix and a subscribed playlist that share a track, and with an exclusion,
but without targets. -/
def newsLibrary : Library := .ofSnapshot
  { userId := "user"
    playlists := [
      { playlist := { id := "m1", name := some "Daily Mix 1", owner := { id := "service" } }
        items := [.ofTrack "a", .ofTrack "b"] },
      { playlist := { id := "s1", name := some "Subscribed News", owner := { id := "friend" } }
        items := [.ofTrack "b", .ofTrack "c", .ofTrack "d"] },
      { playlist := { id := "old", name := some "Overplayed", owner := { id := "user" } }
        items := [.ofTrack "d"] }] }

/-- The merges of the daily mixes and then of the subscribed playlists of `newsLibrary`. -/
def newsMixesFirst : Run MergeReport × Run MergeReport :=
  inTurn (Job.daily.dialogue {} .still) (Job.subscriptions.dialogue {} .still)
    (.ofCandidate "1") (.ofCandidate "2") newsLibrary

/-- The merges of the subscribed playlists and then of the daily mixes of `newsLibrary`. -/
def newsSubscriptionsFirst : Run MergeReport × Run MergeReport :=
  inTurn (Job.subscriptions.dialogue {} .still) (Job.daily.dialogue {} .still)
    (.ofCandidate "3") (.ofCandidate "4") newsLibrary

/-- Both orders lead to the same two playlists of `newsLibrary`, which stand in different places. -/
theorem sameInEitherOrder_inTurn_newsLibrary :
    (MergePlan.dailyMixes {}).Ignores "New Subscriptions" ∧
      (MergePlan.subscriptions {}).Ignores "Now" ∧
      newsLibrary.Reachable ∧ newsLibrary.ids.Nodup ∧
      SameInEitherOrder (.dailyMixes {}) (.subscriptions {}) newsLibrary newsMixesFirst
        newsSubscriptionsFirst ∧
      newsMixesFirst.2.library.trackIdsNamed? "Now" = some ["a", "b"] ∧
      newsMixesFirst.2.library.trackIdsNamed? "New Subscriptions" = some ["b", "c"] ∧
      newsMixesFirst.2.library.ids = ["m1", "s1", "old", "1", "2"] ∧
      (newsMixesFirst.2.library.listing.drop 3).map (·.name) =
        [some "Now", some "New Subscriptions"] ∧
      (newsSubscriptionsFirst.2.library.listing.drop 3).map (·.name) =
        [some "New Subscriptions", some "Now"] := by
  have hdaily : (MergePlan.dailyMixes {}).Ignores "New Subscriptions" :=
    ⟨by decide, by decide, by decide⟩
  have hsubscriptions : (MergePlan.subscriptions {}).Ignores "Now" :=
    ⟨by decide, by decide, by decide⟩
  have hreach : newsLibrary.Reachable := .ofSnapshot _
  have hids : newsLibrary.ids.Nodup := by decide
  have hsame := sameInEitherOrder_inTurn {} .still hdaily hsubscriptions hreach hids
    (.ofCandidate "1") (.ofCandidate "2") (.ofCandidate "3") (.ofCandidate "4")
  exact ⟨hdaily, hsubscriptions, hreach, hids, hsame, by decide +kernel⟩

end Curation

end PlaylistCurator
