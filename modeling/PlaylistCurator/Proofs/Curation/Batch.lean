import Mathlib.Data.List.Nodup
import PlaylistCurator.Curation.Merge

/-!
# Which tracks a merge adds

The loop that picks the new tracks keeps those that are neither in the target nor in an exclusion,
each where it is first met: `appendBatch_eq_eraseDups`. It can be broken off and taken up again:
`appendBatch_append_take`.
-/

namespace PlaylistCurator.Curation

/-- Picking fresh tracks drops those that were seen and then repeats. -/
theorem freshTracks_eq_eraseDups (seen tracks : List String) :
    freshTracks seen tracks = (tracks.filter (· ∉ seen)).eraseDups := by
  induction tracks generalizing seen with
  | nil => rfl
  | cons track rest ih =>
    by_cases hseen : track ∈ seen
    · simp [freshTracks, hseen, ih]
    · -- From here on the track counts as seen, which is what dropping its repeats does.
      have hrest : rest.filter (fun other => decide (other ∉ track :: seen)) =
          (rest.filter (fun other => decide (other ∉ seen))).filter
            (fun other => !other == track) := by
        rw [List.filter_filter]
        refine List.filter_congr fun other _ => ?_
        by_cases htrack : other = track <;> simp [htrack]
      rw [freshTracks, if_neg hseen, ih, hrest, List.filter_cons_of_pos (by simpa using hseen),
        List.eraseDups_cons]

/-- The batch: the tracks of the sources that are neither in the target nor in an exclusion, each
where it is first met. -/
theorem appendBatch_eq_eraseDups (sources : List (List String)) (target : List String)
    (exclusions : List (List String)) :
    appendBatch sources target exclusions =
      (sources.flatten.filter (· ∉ target ++ exclusions.flatten)).eraseDups :=
  freshTracks_eq_eraseDups _ _

/-- A track is added if it is in a source and neither in the target nor in an exclusion. -/
theorem mem_appendBatch {sources : List (List String)} {target : List String}
    {exclusions : List (List String)} {track : String} :
    track ∈ appendBatch sources target exclusions ↔
      track ∈ sources.flatten ∧ track ∉ target ∧ track ∉ exclusions.flatten := by
  simp only [appendBatch_eq_eraseDups, List.mem_eraseDups, List.mem_filter, List.mem_append,
    decide_eq_true_eq, not_or]

/-- No track is added if all tracks of the sources are in the target or in an exclusion. -/
theorem appendBatch_eq_nil {sources : List (List String)} {target : List String}
    {exclusions : List (List String)}
    (h : ∀ track ∈ sources.flatten, track ∈ target ∨ track ∈ exclusions.flatten) :
    appendBatch sources target exclusions = [] := by
  refine List.eq_nil_iff_forall_not_mem.2 fun track htrack => ?_
  obtain ⟨hsource, htarget, hexclusion⟩ := mem_appendBatch.1 htrack
  exact (h track hsource).elim htarget hexclusion

/-! ## What remains of a batch -/

/-- Of the tracks that were seen it only matters which ones they are. -/
theorem freshTracks_congr {seen other : List String} (h : ∀ track, track ∈ seen ↔ track ∈ other)
    (tracks : List String) : freshTracks seen tracks = freshTracks other tracks := by
  rw [freshTracks_eq_eraseDups, freshTracks_eq_eraseDups]
  congr 1
  exact List.filter_congr fun track _ => decide_eq_decide.2 (not_congr (h track))

/-- Having seen more tracks drops these from the fresh ones. -/
theorem freshTracks_append (seen more tracks : List String) :
    freshTracks (seen ++ more) tracks = (freshTracks seen tracks).filter (· ∉ more) := by
  induction tracks generalizing seen with
  | nil => rfl
  | cons track rest ih =>
    by_cases hseen : track ∈ seen
    · have hboth : track ∈ seen ++ more := List.mem_append_left more hseen
      rw [freshTracks, if_pos hboth, freshTracks, if_pos hseen, ih]
    · have hfresh : freshTracks seen (track :: rest) = track :: freshTracks (track :: seen) rest := by
        rw [freshTracks, if_neg hseen]
      have hrest := ih (track :: seen)
      by_cases hmore : track ∈ more
      · -- The track was to come here; that it counts as seen from here on makes no difference.
        have hboth : track ∈ seen ++ more := List.mem_append_right seen hmore
        have hsame : freshTracks (seen ++ more) rest = freshTracks (track :: seen ++ more) rest := by
          refine freshTracks_congr (fun other => ?_) rest
          rw [List.cons_append, List.mem_cons]
          exact ⟨.inr, fun h => h.elim (fun heq => heq ▸ hboth) id⟩
        rw [freshTracks, if_pos hboth, hsame, hrest, hfresh,
          List.filter_cons_of_neg (by simpa using hmore)]
      · have hneither : track ∉ seen ++ more := by simp [hseen, hmore]
        rw [freshTracks, if_neg hneither, ← List.cons_append, hrest, hfresh,
          List.filter_cons_of_pos (by simpa using hmore)]

/-- No track is fresh twice. -/
theorem nodup_freshTracks (seen tracks : List String) : (freshTracks seen tracks).Nodup := by
  induction tracks generalizing seen with
  | nil => exact List.nodup_nil
  | cons track rest ih =>
    rw [freshTracks]
    split
    · exact ih seen
    · refine List.nodup_cons.2 ⟨fun hmem => ?_, ih _⟩
      -- The track has been seen by then.
      rw [freshTracks_eq_eraseDups, List.mem_eraseDups, List.mem_filter] at hmem
      simp at hmem

/-- No track is in a batch twice. -/
theorem nodup_appendBatch (sources : List (List String)) (target : List String)
    (exclusions : List (List String)) : (appendBatch sources target exclusions).Nodup :=
  nodup_freshTracks _ _

/-- Leaving out the first entries of a list without repeats leaves the other entries. -/
theorem filter_not_mem_take {entries : List String} (h : entries.Nodup) (count : Nat) :
    entries.filter (· ∉ entries.take count) = entries.drop count := by
  have hdisjoint := List.disjoint_take_drop h (Nat.le_refl count)
  conv_lhs => rw [← List.take_append_drop count entries, List.filter_append]
  rw [List.take_append_drop]
  have htake : (entries.take count).filter (· ∉ entries.take count) = [] := by
    simp [List.filter_eq_nil_iff]
  have hdrop : (entries.drop count).filter (· ∉ entries.take count) = entries.drop count := by
    refine List.filter_eq_self.2 fun track htrack => ?_
    simpa using fun hmem => hdisjoint hmem htrack
  rw [htake, hdrop, List.nil_append]

/-- Tracks that the target has in addition count as seen after all others. -/
theorem appendBatch_append_target (sources : List (List String)) (target more : List String)
    (exclusions : List (List String)) :
    appendBatch sources (target ++ more) exclusions =
      freshTracks (target ++ exclusions.flatten ++ more) sources.flatten := by
  refine freshTracks_congr (fun track => ?_) _
  simp only [List.mem_append]
  exact or_right_comm

/-- Once the target has the first tracks of a batch, the batch consists of the others. -/
theorem appendBatch_append_take (sources : List (List String)) (target : List String)
    (exclusions : List (List String)) (count : Nat) :
    appendBatch sources (target ++ (appendBatch sources target exclusions).take count) exclusions =
      (appendBatch sources target exclusions).drop count := by
  rw [appendBatch_append_target, freshTracks_append]
  exact filter_not_mem_take (nodup_appendBatch sources target exclusions) count

end PlaylistCurator.Curation
