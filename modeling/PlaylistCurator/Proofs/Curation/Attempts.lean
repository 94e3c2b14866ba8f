import PlaylistCurator.Proofs.Curation.StruckCall

/-!
# Jobs in a row

A user may do one job after the other, and again a job that has failed. Each attempt finds the
library as the attempts before have left it, and has an outage of its own. Main definition and
statement:

* `afterAttempts`: what some attempts leave of a library;
* `exists_library_run_merge`: what a merge leaves, whatever the outage.
-/

namespace PlaylistCurator.Curation

open Dialogue

variable {newId : IdSource} {outage : Outage} {library : Library}

/-- An attempt at a job, with what is left to chance in it and with an outage. -/
structure Attempt where
  /-- The job. -/
  job : Job
  /-- The ids of playlists that are created. -/
  newId : IdSource
  /-- The order into which tracks are put. -/
  shuffle : Shuffle
  /-- Which calls do not get through. -/
  outage : Outage

/-- How an attempt goes. -/
def Attempt.run (settings : Settings) (attempt : Attempt) (library : Library) :
    Run attempt.job.Product :=
  (attempt.job.dialogue settings attempt.shuffle).run attempt.newId attempt.outage library

/-- What attempts, made one after the other, leave of a library. -/
def afterAttempts (settings : Settings) (attempts : List Attempt) (library : Library) : Library :=
  attempts.foldl (fun library attempt => (attempt.run settings library).library) library

@[simp]
theorem afterAttempts_cons (settings : Settings) (attempt : Attempt) (rest : List Attempt)
    (library : Library) :
    afterAttempts settings (attempt :: rest) library =
      afterAttempts settings rest (attempt.run settings library).library := rfl

/-- An attempt at a merge is a run of its dialogue. -/
theorem Attempt.library_run_eq_of_plan? {settings : Settings} {attempt : Attempt} {plan : MergePlan}
    (hplan : attempt.job.plan? settings = some plan) (library : Library) :
    (attempt.run settings library).library =
      ((merge plan).run attempt.newId attempt.outage library).library := by
  obtain ⟨job, newId, shuffle, outage⟩ := attempt
  cases job with
  | daily | subscriptions =>
    obtain rfl := Option.some.inj hplan
    rfl
  | list | copy | randomize => cases hplan

theorem reachable_library_run {α : Type} (hreach : library.Reachable) (newId : IdSource)
    (outage : Outage) (dialogue : Dialogue α) :
    (dialogue.run newId outage library).library.Reachable := by
  obtain ⟨calls, hcalls⟩ := dialogue.exists_library_run_eq_replay newId outage library
  exact hcalls ▸ hreach.replay newId calls

theorem nodup_ids_library_run {α : Type} (hids : library.ids.Nodup) (newId : IdSource)
    (outage : Outage) (dialogue : Dialogue α) :
    (dialogue.run newId outage library).library.ids.Nodup := by
  obtain ⟨calls, hcalls⟩ := dialogue.exists_library_run_eq_replay newId outage library
  exact hcalls ▸ Library.nodup_ids_replay hids newId calls

/-- What a merge leaves of a library, whatever the outage: the library as it was, or with its target
and there with the tracks of the first pieces of its batch. -/
theorem exists_library_run_merge (plan : MergePlan) (newId : IdSource) (outage : Outage)
    (hsynced : library.IsSynced) :
    ∃ target, (library.withNamed newId plan.targetName).firstNamed? plan.targetName = some target ∧
      (((merge plan).run newId outage library).library = library ∨
        ∃ count, ((merge plan).run newId outage library).library =
          (library.withNamed newId plan.targetName).added target.playlist.id
            ((chunks maxTracksPerCall (plan.batch (library.withNamed newId plan.targetName)
              target.playlist.id)).take count)) := by
  obtain ⟨target, listingReads, trackReads, hcourse⟩ := exists_mergeCourse plan newId hsynced
  refine ⟨target, hcourse.isTarget, ?_⟩
  rcases (merge plan).run_eq_or_interrupted newId outage library with
    ⟨-, heq⟩ | ⟨before, call, reason, hcut⟩
  · -- Without a struck call all pieces are added.
    right
    refine ⟨(chunks maxTracksPerCall (plan.batch (library.withNamed newId plan.targetName)
      target.playlist.id)).length, ?_⟩
    rw [heq, hcourse.yields, List.take_length]
  · have hbegin := hcut.isPrefix
    rw [hcourse.yields] at hbegin
    rw [hcut.library_eq]
    rcases (hcourse.stages hsynced).replay_eq hbegin with ⟨-, hsame | ⟨-, hcreated⟩⟩ | ⟨-, hadded⟩
    · exact .inl hsame
    · -- No piece has been added to the target that was created.
      right
      refine ⟨0, ?_⟩
      rw [hcreated, List.take_zero, Library.added_nil (hsynced.withNamed newId _)]
    · exact .inr ⟨_, hadded⟩

end PlaylistCurator.Curation
