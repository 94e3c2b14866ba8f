import PlaylistCurator.Proofs.Curation.Attempts

/-!
# What a merge keeps out

A merge adds no track of its exclusions and none that its target has. Which playlists are exclusions
depends on all three names of a plan: a playlist whose name starts with the prefix of the exclusions
may be a source, or have the name of the target without being the target. Main statement:

* `excludesByRole_daily_and_subscriptions`: exclusions and target are kept out, and so are all playlists
  whose names start with the prefix of the exclusions if and only if the names do not overlap.
-/

namespace PlaylistCurator.Curation

open Dialogue

variable {newId : IdSource} {outage : Outage} {library : Library}

namespace MergePlan

variable {plan : MergePlan}

/-- The name of a stored playlist starts with the prefix of the exclusions. -/
def HasExcludedName (plan : MergePlan) (stored : StoredPlaylist) : Prop :=
  ∃ name ∈ stored.playlist.name, plan.exclusionPrefix.toList <+: name.toList

/-- The prefix of the exclusions and that of the sources can begin the same name, or the former
begins the name of the target. -/
def Overlaps (plan : MergePlan) : Prop :=
  plan.sourcePrefix.toList <+: plan.exclusionPrefix.toList ∨
    plan.exclusionPrefix.toList <+: plan.sourcePrefix.toList ∨
    plan.exclusionPrefix.toList <+: plan.targetName.toList

instance : Decidable plan.Overlaps :=
  inferInstanceAs (Decidable (_ ∨ _ ∨ _))

/-- Unless the names overlap, a name that starts with the prefix of the exclusions makes a playlist
an exclusion. -/
theorem HasExcludedName.isExclusion {stored : StoredPlaylist} (h : plan.HasExcludedName stored)
    (hplan : ¬ plan.Overlaps) : plan.IsExclusion stored := by
  obtain ⟨name, hname, hstarts⟩ := h
  refine ⟨name, hname, ?_, ?_, hstarts⟩
  · rintro rfl
    exact hplan (.inr (.inr hstarts))
  · -- Of two beginnings of one name the shorter begins the longer.
    intro hsource
    rcases List.prefix_or_prefix_of_prefix hsource hstarts with hbegin | hbegin
    · exact hplan (.inl hbegin)
    · exact hplan (.inr (.inl hbegin))

-- The names of the default settings do not overlap.
example : ¬ (MergePlan.dailyMixes {}).Overlaps := by decide +kernel
example : ¬ (MergePlan.subscriptions {}).Overlaps := by decide +kernel

/-- If the names overlap, there is a name for a source such that it, or the name of the target, starts
with the prefix of the exclusions. -/
theorem Overlaps.exists_name (h : plan.Overlaps) :
    ∃ name : String, name ≠ plan.targetName ∧ plan.sourcePrefix.toList <+: name.toList ∧
      (plan.exclusionPrefix.toList <+: name.toList ∨
        plan.exclusionPrefix.toList <+: plan.targetName.toList) := by
  -- A name that is longer than the target's is another one.
  have hlong (start : List Char) :
      String.ofList (start ++ (plan.targetName.toList ++ ['+'])) ≠ plan.targetName := by
    intro heq
    have hlength := congrArg (·.toList.length) heq
    simp only [String.toList_ofList, List.length_append, List.length_singleton] at hlength
    omega
  have hbegin (start : List Char) :
      start <+: (String.ofList (start ++ (plan.targetName.toList ++ ['+']))).toList := by
    rw [String.toList_ofList]
    exact List.prefix_append _ _
  rcases h with hsource | hexclusion | htarget
  · exact ⟨_, hlong _, hsource.trans (hbegin _), .inl (hbegin _)⟩
  · exact ⟨_, hlong _, hbegin _, .inl (hexclusion.trans (hbegin _))⟩
  · exact ⟨_, hlong plan.sourcePrefix.toList, hbegin _, .inr htarget⟩

/-- Of all that a merge has added, nothing is in a playlist whose name starts with the prefix of the
exclusions, and nothing was in the target before. -/
structure KeepsOut (plan : MergePlan) (library : Library) (added : List String) : Prop where
  /-- No track of a playlist with such a name is added. -/
  excluded : ∀ stored ∈ library.playlists, plan.HasExcludedName stored →
    added.Disjoint stored.trackIds
  /-- No track of the target is added. -/
  present : ∀ target, library.firstNamed? plan.targetName = some target →
    added.Disjoint target.trackIds

/-- Of all that a merge has added, nothing is in an exclusion, and nothing was in the target before,
as far as these playlists are what their ids stand for. -/
structure KeepsOutExclusions (plan : MergePlan) (library : Library) (added : List String) :
    Prop where
  /-- No track of an exclusion is added. -/
  excluded : ∀ stored, library.find? stored.playlist.id = some stored →
    plan.IsExclusion stored → added.Disjoint stored.trackIds
  /-- No track of the target is added. -/
  present : ∀ target, library.firstNamed? plan.targetName = some target →
    library.find? target.playlist.id = some target → added.Disjoint target.trackIds

/-- Where ids are distinct and names do not overlap, it is enough to keep out the exclusions and what
the target has. -/
theorem KeepsOutExclusions.keepsOut {added : List String} (h : plan.KeepsOutExclusions library added)
    (hids : library.ids.Nodup) (hplan : ¬ plan.Overlaps) : plan.KeepsOut library added where
  excluded := fun stored hstored hname =>
    h.excluded stored (Library.find?_of_mem hids hstored) (hname.isExclusion hplan)
  present := fun target htarget =>
    h.present target htarget (Library.find?_of_mem hids (List.mem_of_find?_eq_some htarget))

end MergePlan

/-- A merge that succeeds keeps out its exclusions and what its target has. -/
theorem keepsOutExclusions_run_merge {plan : MergePlan} (hsynced : library.IsSynced)
    {report : MergeReport} (hok : ((merge plan).run newId outage library).result = .ok report) :
    plan.KeepsOutExclusions library report.added := by
  obtain ⟨target, listingReads, trackReads, hcourse⟩ := exists_mergeCourse plan newId hsynced
  rw [run_eq_of_result_eq_ok hok, hcourse.yields] at hok
  obtain rfl := Except.ok.inj hok
  -- What is added is the batch, and a batch has no track of the target or of an exclusion.
  refine { excluded := ?_, present := ?_ }
  · intro stored hfind hexclusion track hadded htrack
    obtain ⟨-, -, hexcluded⟩ := mem_appendBatch.1 hadded
    rw [MergePlan.tracksWithRole_withNamed (by decide)] at hexcluded
    refine hexcluded (plan.mem_flatten_tracksWithRole.2 ⟨stored.playlist.id, ?_, ?_⟩)
    · rw [plan.withRole_listing]
      refine List.mem_map.2 ⟨stored.playlist, List.mem_map.2 ⟨stored, ?_, rfl⟩, rfl⟩
      refine List.mem_filter.2 ⟨List.mem_of_find?_eq_some hfind, ?_⟩
      exact decide_eq_true ((plan.role_eq_exclusion_iff stored).2 hexclusion)
    · rw [Library.tracksAt, hfind]
      exact htrack
  · intro present hpresent hfind track hadded htrack
    obtain ⟨-, hnew, -⟩ := mem_appendBatch.1 hadded
    -- The target that was there is the one that is merged into.
    have htarget := hcourse.isTarget
    rw [Library.withNamed_of_isSome (by simp [hpresent]), hpresent] at htarget
    obtain rfl := Option.some.inj htarget
    refine hnew ?_
    rw [Library.tracksAt_withNamed, Library.tracksAt, hfind]
    exact htrack

/-- A library with two playlists of one name, the first of them empty, and a third playlist that has
the same track as the second. -/
def twinLibrary (name third : String) : Library := .ofSnapshot
  { userId := "user"
    playlists := [
      { playlist := { id := "1", name := some name, owner := { id := "user" } } },
      { playlist := { id := "2", name := some name, owner := { id := "user" } }
        items := [.ofTrack "a"] },
      { playlist := { id := "3", name := some third, owner := { id := "user" } }
        items := [.ofTrack "a"] }] }

theorem nodup_ids_twinLibrary (name third : String) : (twinLibrary name third).ids.Nodup := by
  have hids : (twinLibrary name third).ids = ["1", "2", "3"] := rfl
  rw [hids]
  decide

theorem firstNamed?_twinLibrary (name third : String) :
    (twinLibrary name third).firstNamed? name =
      some { playlist := { id := "1", name := some name, owner := { id := "user" } } } := by
  refine List.find?_cons_of_pos ?_
  exact beq_self_eq_true (some name)

/-- If the third playlist is a source and the other two have the name of the target, a merge adds
their track. -/
theorem exists_mem_added_twinLibrary {plan : MergePlan} {name : String}
    (hname : name ≠ plan.targetName) (hstarts : plan.sourcePrefix.toList <+: name.toList)
    (newId : IdSource) :
    ∃ report, ((merge plan).run newId .none (twinLibrary plan.targetName name)).result = .ok report ∧
      "a" ∈ report.added := by
  have hsynced : (twinLibrary plan.targetName name).IsSynced :=
    (Library.Reachable.ofSnapshot _).isSynced
  obtain ⟨target, report, hok, hmerge⟩ :=
    isMerged_run_merge plan newId hsynced (nodup_ids_twinLibrary plan.targetName name)
  refine ⟨report, hok, ?_⟩
  -- The first playlist is the target, and it has no tracks.
  have hfirst := firstNamed?_twinLibrary plan.targetName name
  have htarget := hmerge.isTarget
  rw [Library.withNamed_of_isSome (by rw [hfirst]; rfl), hfirst] at htarget
  obtain rfl := Option.some.inj htarget
  rw [hmerge.added_eq, MergePlan.mem_newTracks]
  refine ⟨⟨_, .tail _ (.tail _ (.head _)), ⟨name, rfl, hname, hstarts⟩, .head _⟩,
    List.not_mem_nil, ?_⟩
  -- None of the three is an exclusion.
  rintro stored hstored ⟨_, hstoredName, hother, hnot, -⟩
  rcases hstored with _ | ⟨_, _ | ⟨_, _ | ⟨_, ⟨⟩⟩⟩⟩ <;> cases hstoredName
  · exact absurd rfl hother
  · exact absurd rfl hother
  · exact absurd hstarts hnot

/-- A merge keeps out what its plan makes exclusions. These are all playlists whose names start with
the prefix of the exclusions exactly if the names of the plan do not overlap. -/
structure ExcludesByRole (plan : MergePlan) (dialogue : Dialogue MergeReport) : Prop where
  /-- Exclusions, and what the target has, are kept out of every library, whatever the outage. -/
  keepsOutExclusions : ∀ library newId outage report, library.Reachable →
    (dialogue.run newId outage library).result = .ok report →
      plan.KeepsOutExclusions library report.added
  /-- Everything with such a name is kept out of every library whose ids are distinct, unless the
  names overlap. -/
  keepsOut_iff : (∀ library newId outage report, library.Reachable → library.ids.Nodup →
    (dialogue.run newId outage library).result = .ok report →
      plan.KeepsOut library report.added) ↔ ¬ plan.Overlaps

/-- Whatever a plan, its merge keeps out what the plan makes exclusions. -/
theorem excludesByRole_merge (plan : MergePlan) : ExcludesByRole plan (merge plan) where
  keepsOutExclusions := fun _ _ _ _ hreach hok => keepsOutExclusions_run_merge hreach.isSynced hok
  keepsOut_iff := by
    constructor
    · -- If the names overlap, a library with a source of a certain name is an exception.
      intro hkeeps hplan
      obtain ⟨name, hname, hstarts, hexcluded⟩ := hplan.exists_name
      obtain ⟨report, hok, hadded⟩ :=
        exists_mem_added_twinLibrary hname hstarts (.ofCandidate "new")
      have hout := hkeeps _ _ .none report (.ofSnapshot _) (nodup_ids_twinLibrary _ _) hok
      rcases hexcluded with hexcluded | hexcluded
      · exact hout.excluded _ (.tail _ (.tail _ (.head _))) ⟨name, rfl, hexcluded⟩ hadded (.head _)
      · exact hout.excluded _ (.tail _ (.head _)) ⟨plan.targetName, rfl, hexcluded⟩ hadded (.head _)
    · intro hplan library newId outage report hreach hids hok
      exact (keepsOutExclusions_run_merge hreach.isSynced hok).keepsOut hids hplan

/-- The merges of the daily mixes and of the subscribed playlists keep out what the names of the
settings make exclusions, and no other playlist. -/
theorem excludesByRole_daily_and_subscriptions (settings : Settings) (shuffle : Shuffle) :
    ExcludesByRole
        ⟨settings.dailyMixPrefix, settings.dailyMixTarget, settings.exclusionPrefix⟩
        (Job.daily.dialogue settings shuffle) ∧
      ExcludesByRole
        ⟨settings.subscriptionsPrefix, settings.subscriptionsTarget, settings.exclusionPrefix⟩
        (Job.subscriptions.dialogue settings shuffle) :=
  ⟨excludesByRole_merge _, excludesByRole_merge _⟩

/-- A library with a daily mix and with an old one, which has been set aside under a longer name. -/
def setAsideLibrary : Library := .ofSnapshot
  { userId := "tester"
    playlists := [
      { playlist := { id := "now", name := some "Now", owner := { id := "tester" } } },
      { playlist := { id := "d1", name := some "Daily Mix 1", owner := { id := "tester" } }
        items := [.ofTrack "a"] },
      { playlist := { id := "old", name := some "Daily Mix Old", owner := { id := "tester" } }
        items := [.ofTrack "b"] }] }

/-- With "Daily Mix Old" as the prefix of the exclusions, the merge of the daily mixes adds the track of
the playlist of that name. -/
theorem keepsOut_fails_on_setAsideLibrary :
    ∃ report,
      ((Job.daily.dialogue { exclusionPrefix := "Daily Mix Old" } .still).run (.ofCandidate "new")
        .none setAsideLibrary).result = .ok report ∧
      ¬ (MergePlan.dailyMixes { exclusionPrefix := "Daily Mix Old" }).KeepsOut setAsideLibrary
        report.added := by
  have hresult : ((merge (.dailyMixes { exclusionPrefix := "Daily Mix Old" })).run
      (.ofCandidate "new") .none setAsideLibrary).result =
        .ok ⟨"now", 2, 2, ["a", "b"], []⟩ := by
    decide +kernel
  refine ⟨_, hresult, fun hkeeps => ?_⟩
  exact hkeeps.excluded _ (.tail _ (.tail _ (.head _))) ⟨"Daily Mix Old", rfl, List.prefix_refl _⟩
    (.tail _ (.head _)) (.head _)

end PlaylistCurator.Curation
