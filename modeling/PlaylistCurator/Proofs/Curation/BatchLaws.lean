import Mathlib.Data.List.Perm.Basic
import PlaylistCurator.Proofs.Curation.Batch

/-!
# The laws of the batch

What a merge adds is determined by three properties (`IsExactBatch`): it repeats nothing, it holds
the tracks of the sources that are neither in the target nor in an exclusion, and it keeps the order
in which these first occur. From them follows what the batch does not depend on. It can be computed
in steps, source by source, if what a step adds counts as part of the target in the next one.

* `eq_appendBatch_iff`: the batch is the only list with the three properties;
* `batchLaws_appendBatch`: the laws.
-/

namespace PlaylistCurator.Curation

/-! ## Order and steps -/

/-- Fresh tracks are those of the given ones that were not seen. -/
theorem mem_freshTracks {seen tracks : List String} {track : String} :
    track ∈ freshTracks seen tracks ↔ track ∈ tracks ∧ track ∉ seen := by
  simp [freshTracks_eq_eraseDups]

/-- Fresh tracks stand in the order in which they first occur. -/
theorem pairwise_idxOf_freshTracks (seen tracks : List String) :
    (freshTracks seen tracks).Pairwise fun earlier later =>
      tracks.idxOf earlier < tracks.idxOf later := by
  induction tracks generalizing seen with
  | nil => exact .nil
  | cons track rest ih =>
    -- What is fresh after the first track differs from it, and so it occurs one place later here
    -- than among the other tracks.
    have hshift : ∀ before, track ∈ before → ∀ other ∈ freshTracks before rest,
        (track :: rest).idxOf other = rest.idxOf other + 1 := by
      intro before hbefore other hother
      have hne : track ≠ other := fun heq => (mem_freshTracks.1 hother).2 (heq ▸ hbefore)
      exact List.idxOf_cons_ne rest hne
    have hrest : ∀ before, track ∈ before → (freshTracks before rest).Pairwise
        fun earlier later => (track :: rest).idxOf earlier < (track :: rest).idxOf later := by
      intro before hbefore
      refine (ih before).imp_of_mem fun hearlier hlater hlt => ?_
      rw [hshift before hbefore _ hearlier, hshift before hbefore _ hlater]
      exact Nat.succ_lt_succ hlt
    by_cases hseen : track ∈ seen
    · rw [freshTracks, if_pos hseen]
      exact hrest seen hseen
    · rw [freshTracks, if_neg hseen, List.pairwise_cons]
      refine ⟨fun other hother => ?_, hrest _ List.mem_cons_self⟩
      rw [hshift _ List.mem_cons_self other hother, List.idxOf_cons_self]
      exact Nat.succ_pos _

/-- Fresh tracks can be picked in two steps: what the first step picks has been seen in the
second. -/
theorem freshTracks_append_right (seen tracks more : List String) :
    freshTracks seen (tracks ++ more) =
      freshTracks seen tracks ++ freshTracks (seen ++ freshTracks seen tracks) more := by
  induction tracks generalizing seen with
  | nil => simp [freshTracks]
  | cons track rest ih =>
    rw [List.cons_append]
    by_cases hseen : track ∈ seen
    · rw [freshTracks, if_pos hseen, ih, freshTracks, if_pos hseen]
    · have hsame : freshTracks (track :: seen ++ freshTracks (track :: seen) rest) more =
          freshTracks (seen ++ track :: freshTracks (track :: seen) rest) more := by
        refine freshTracks_congr (fun other => ?_) more
        simp only [List.cons_append, List.mem_cons, List.mem_append]
        exact or_left_comm
      rw [freshTracks, if_neg hseen, ih, freshTracks, if_neg hseen, hsame, List.cons_append]

/-! ## The properties that determine the batch -/

/-- A list is what a merge with the given sources, target and exclusions has to add. -/
structure IsExactBatch (sources : List (List String)) (target : List String)
    (exclusions : List (List String)) (batch : List String) : Prop where
  /-- No track is repeated. -/
  nodup : batch.Nodup
  /-- The tracks are those of a source that are neither in the target nor in an exclusion. -/
  mem_iff : ∀ track, track ∈ batch ↔
    (∃ source ∈ sources, track ∈ source) ∧ track ∉ target ∧
      ∀ exclusion ∈ exclusions, track ∉ exclusion
  /-- The tracks stand in the order in which they first occur in the sources, one source after the
  other. -/
  pairwise_idxOf : batch.Pairwise fun earlier later =>
    sources.flatten.idxOf earlier < sources.flatten.idxOf later

variable {sources : List (List String)} {target : List String} {exclusions : List (List String)}

theorem isExactBatch_appendBatch (sources : List (List String)) (target : List String)
    (exclusions : List (List String)) :
    IsExactBatch sources target exclusions (appendBatch sources target exclusions) where
  nodup := nodup_appendBatch sources target exclusions
  mem_iff := by
    intro track
    rw [mem_appendBatch]
    simp only [List.mem_flatten, not_exists, not_and]
  pairwise_idxOf := pairwise_idxOf_freshTracks _ _

/-- No two lists have the properties. -/
theorem IsExactBatch.unique {batch other : List String}
    (h : IsExactBatch sources target exclusions batch)
    (hother : IsExactBatch sources target exclusions other) : batch = other := by
  have hperm : batch.Perm other := (List.perm_ext_iff_of_nodup h.nodup hother.nodup).2
    fun track => (h.mem_iff track).trans (hother.mem_iff track).symm
  refine hperm.eq_of_pairwise ?_ h.pairwise_idxOf hother.pairwise_idxOf
  exact fun _ _ _ _ hlt hgt => absurd hlt (Nat.lt_asymm hgt)

/-- The batch is the only list with the properties. -/
theorem eq_appendBatch_iff {batch : List String} :
    batch = appendBatch sources target exclusions ↔
      IsExactBatch sources target exclusions batch := by
  constructor
  · rintro rfl
    exact isExactBatch_appendBatch sources target exclusions
  · exact fun h => h.unique (isExactBatch_appendBatch sources target exclusions)

/-! ## What the batch does not depend on -/

/-- The laws of a function that says which tracks of the sources to add to a target, given the
exclusions. -/
structure BatchLaws
    (batch : List (List String) → List String → List (List String) → List String) : Prop where
  /-- A list is the batch exactly if it has the properties that determine it. -/
  eq_iff : ∀ sources target exclusions list,
    list = batch sources target exclusions ↔ IsExactBatch sources target exclusions list
  /-- Of target and exclusions it only matters which tracks they have together, in whatever order,
  however often and divided in whatever way. -/
  congr_seen : ∀ sources target exclusions otherTarget otherExclusions,
    (∀ track, track ∈ target ++ exclusions.flatten ↔
      track ∈ otherTarget ++ otherExclusions.flatten) →
    batch sources target exclusions = batch sources otherTarget otherExclusions
  /-- How the tracks of the sources are divided makes no difference. -/
  congr_sources : ∀ sources otherSources target exclusions,
    sources.flatten = otherSources.flatten →
    batch sources target exclusions = batch otherSources target exclusions
  /-- More sources add what is left of them once the batch of the others is in the target. -/
  append_sources : ∀ sources more target exclusions,
    batch (sources ++ more) target exclusions =
      batch sources target exclusions ++
        batch more (target ++ batch sources target exclusions) exclusions

/-- The batch of a merge obeys the laws. -/
theorem batchLaws_appendBatch : BatchLaws appendBatch where
  eq_iff := fun _ _ _ _ => eq_appendBatch_iff
  congr_seen := fun sources _ _ _ _ h => freshTracks_congr h sources.flatten
  congr_sources := by
    intro sources otherSources target exclusions h
    rw [appendBatch, h, appendBatch]
  append_sources := by
    intro sources more target exclusions
    rw [appendBatch_append_target, appendBatch, List.flatten_append, freshTracks_append_right,
      appendBatch]

/-- The first source brings two tracks, of which the second one repeats the latter. -/
example : appendBatch [["a", "b", "a", "c"], ["c", "d"]] ["b"] [["d"]] = ["a", "c"] := by decide

end PlaylistCurator.Curation
