import PlaylistCurator.Proofs.Curation.Attempts

/-!
# The page size does not matter

A dialogue sees a library through its pages, but it always follows them to the end. So all that the
commands come to is the same with every page size: what they answer, how they fail, what they write
and what they leave. The judgement is `Dialogue.IgnoresPages`, with a rule for each way in which the
commands are put together; it is about two runs, which differ in the page size of the library alone.

* `ignoresPages_dialogue`: every job ignores the page size;
* `accounts_withPageSize`: so do jobs that are done one after the other.
-/

namespace PlaylistCurator

namespace Dialogue

variable {α β : Type} {newId : IdSource}

/-- With another page size the dialogue ends in the same way and leaves the same library, which
still has the other page size. -/
def IgnoresPages (newId : IdSource) (dialogue : Dialogue α) : Prop :=
  ∀ (library : Library) (size : Nat),
    (dialogue.run newId .none (library.withPageSize size)).result =
        (dialogue.run newId .none library).result ∧
      (dialogue.run newId .none (library.withPageSize size)).library =
        (dialogue.run newId .none library).library.withPageSize size

theorem ignoresPages_done (result : α) : (done result).IgnoresPages newId :=
  fun _ _ => ⟨rfl, rfl⟩

theorem ignoresPages_failWith (cause : Cause) :
    (failWith cause : Dialogue α).IgnoresPages newId :=
  fun _ _ => ⟨rfl, rfl⟩

/-- Dialogues that ignore the page size can be put together. -/
theorem IgnoresPages.bind {dialogue : Dialogue α} {following : α → Dialogue β}
    (h : dialogue.IgnoresPages newId)
    (hfollowing : ∀ result, (following result).IgnoresPages newId) :
    (dialogue >>= following).IgnoresPages newId := by
  intro library size
  obtain ⟨hresult, hlibrary⟩ := h library size
  cases hend : (dialogue.run newId .none library).result with
  | error failure =>
    -- Both runs end here, with the same failure.
    rw [hend] at hresult
    rw [run_bind_of_result_eq_error hresult, run_bind_of_result_eq_error hend]
    exact ⟨rfl, hlibrary⟩
  | ok result =>
    rw [hend] at hresult
    rw [run_bind_of_yields (yields_of_result_eq_ok hresult),
      run_bind_of_yields (yields_of_result_eq_ok hend), hlibrary]
    exact hfollowing result _ size

theorem IgnoresPages.map {dialogue : Dialogue α} (change : α → β)
    (h : dialogue.IgnoresPages newId) : (change <$> dialogue).IgnoresPages newId := by
  rw [← bind_pure_comp]
  exact h.bind fun result => ignoresPages_done (change result)

theorem IgnoresPages.mapM {γ : Type} {step : γ → Dialogue α}
    (h : ∀ entry, (step entry).IgnoresPages newId) (entries : List γ) :
    (entries.mapM step).IgnoresPages newId := by
  induction entries with
  | nil => exact ignoresPages_done []
  | cons entry rest ih =>
    rw [List.mapM_cons]
    exact (h entry).bind fun _ => ih.bind fun _ => ignoresPages_done _

/-- A call that is answered without regard to pages. -/
theorem ignoresPages_call {call : Call} {during : Option Activity}
    (h : ∀ (library : Library) (size : Nat), (library.withPageSize size).answer newId call =
      (library.answer newId call).map fun answered =>
        (answered.1, answered.2.withPageSize size)) :
    (Dialogue.call call during).IgnoresPages newId := by
  intro library size
  have hother := h library size
  cases hanswer : library.answer newId call with
  | error cause =>
    rw [hanswer] at hother
    rw [Dialogue.call, run_ask_of_refusal hanswer, run_ask_of_refusal hother]
    exact ⟨rfl, rfl⟩
  | ok answered =>
    rw [hanswer] at hother
    rw [Dialogue.call, run_ask_of_answer hanswer, run_ask_of_answer hother]
    exact ⟨rfl, rfl⟩

/-- Reading the same with both page sizes leaves both libraries as they were. -/
theorem run_withPageSize_of_reads {dialogue : Dialogue α} {library : Library} {size : Nat}
    {result : α} (h : dialogue.Reads newId library result)
    (hother : dialogue.Reads newId (library.withPageSize size) result) :
    (dialogue.run newId .none (library.withPageSize size)).result =
        (dialogue.run newId .none library).result ∧
      (dialogue.run newId .none (library.withPageSize size)).library =
        (dialogue.run newId .none library).library.withPageSize size := by
  obtain ⟨calls, -, hyields⟩ := h
  obtain ⟨otherCalls, -, hotherYields⟩ := hother
  rw [hyields, hotherYields]
  exact ⟨rfl, rfl⟩

end Dialogue

/-- Writing to the items of a playlist has no regard to pages. -/
theorem Library.writeItems_withPageSize (library : Library) (size : Nat) (id : String)
    (tracks : List String) (change : List Item → List Item) (write : Write) :
    (library.withPageSize size).writeItems id tracks change write =
      (library.writeItems id tracks change write).map (·.withPageSize size) := by
  unfold Library.writeItems
  split
  · rfl
  · have hplaylists : (library.withPageSize size).playlists = library.playlists := rfl
    rw [hplaylists]
    cases changeItems? id change library.playlists <;> rfl

namespace Curation

open Dialogue

variable {newId : IdSource}

/-! ## The parts of the commands -/

theorem ignoresPages_allPlaylists : allPlaylists.IgnoresPages newId := by
  intro library size
  -- All pages together are the listing, which is the same for both libraries.
  exact run_withPageSize_of_reads (reads_allPlaylists newId library)
    (reads_allPlaylists newId (library.withPageSize size))

theorem ignoresPages_tracksOf (id : String) : (tracksOf id).IgnoresPages newId := by
  refine IgnoresPages.map trackIds fun library size => ?_
  cases hfind : library.find? id with
  | none =>
    -- There is no such playlist, whatever the page size: the first call is refused.
    have hrefused : ∀ other : Library, other.find? id = none →
        other.answer newId (.items id) = .error (.unknownPlaylist id) := by
      intro other hother
      simp only [Library.answer, hother]
    rw [allItems, call_bind, run_ask_of_refusal (hrefused library hfind),
      run_ask_of_refusal (hrefused (library.withPageSize size) hfind)]
    exact ⟨rfl, rfl⟩
  | some stored =>
    have hfindOther : (library.withPageSize size).find? id = some stored := hfind
    exact run_withPageSize_of_reads (reads_allItems hfind) (reads_allItems hfindOther)

theorem ignoresPages_findOrCreate (playlists : List Playlist) (name : String) :
    (findOrCreate playlists name).IgnoresPages newId := by
  unfold findOrCreate
  split
  · exact ignoresPages_done _
  · refine (ignoresPages_call fun _ _ => rfl).bind fun user => ?_
    exact (ignoresPages_call fun _ _ => rfl).bind fun playlist => ignoresPages_done _

theorem ignoresPages_findListed (playlists : List Playlist) (name : String) :
    (findListed playlists name).IgnoresPages newId := by
  unfold findListed
  split
  · exact ignoresPages_done _
  · exact ignoresPages_failWith _

theorem ignoresPages_add (id : String) (tracks : List String) (during : Option Activity) :
    (Dialogue.call (.add id tracks) during).IgnoresPages newId := by
  refine ignoresPages_call fun library size => ?_
  simp only [Library.answer, Library.writeItems_withPageSize]
  cases library.writeItems id tracks (· ++ tracks.map Item.ofTrack) (.add id tracks) <;> rfl

theorem ignoresPages_replace (id : String) (tracks : List String) (during : Option Activity) :
    (Dialogue.call (.replace id tracks) during).IgnoresPages newId := by
  refine ignoresPages_call fun library size => ?_
  simp only [Library.answer, Library.writeItems_withPageSize]
  cases library.writeItems id tracks (fun _ => tracks.map Item.ofTrack) (.replace id tracks) <;>
    rfl

theorem ignoresPages_addPieces (activity : Activity) (id : String) (pieces : List (List String)) :
    (addPieces activity id pieces).IgnoresPages newId := by
  induction pieces with
  | nil => exact ignoresPages_done ()
  | cons piece rest ih => exact (ignoresPages_add id piece _).bind fun _ => ih

/-! ## The commands -/

theorem ignoresPages_merge (plan : MergePlan) : (merge plan).IgnoresPages newId := by
  refine ignoresPages_allPlaylists.bind fun playlists => ?_
  refine (ignoresPages_findOrCreate playlists _).bind fun targetId => ?_
  dsimp only
  split
  · exact ignoresPages_done _
  · -- What is added is computed from tracks that have been read to the end.
    refine (ignoresPages_tracksOf targetId).bind fun target => ?_
    refine (IgnoresPages.mapM (fun _ => ignoresPages_tracksOf _) _).bind fun exclusions => ?_
    refine (IgnoresPages.mapM (fun _ => ignoresPages_tracksOf _) _).bind fun candidates => ?_
    split
    · exact ignoresPages_done _
    · exact (ignoresPages_addPieces _ _ _).bind fun _ => ignoresPages_done _

theorem ignoresPages_ofQuery {α : Type} (query : Except QueryError α) :
    (ofQuery query).IgnoresPages newId := by
  cases query with
  | error error => exact ignoresPages_failWith _
  | ok result => exact ignoresPages_done result

theorem ignoresPages_list (filter sort : Option String) :
    (list filter sort).IgnoresPages newId := by
  refine (ignoresPages_ofQuery _).bind fun filters => ?_
  refine (ignoresPages_ofQuery _).bind fun keys => ?_
  exact ignoresPages_allPlaylists.bind fun playlists => ignoresPages_done _

theorem ignoresPages_copy (source destination : String) (shuffle : Option Shuffle) :
    (copy source destination shuffle).IgnoresPages newId := by
  refine ignoresPages_allPlaylists.bind fun playlists => ?_
  refine (ignoresPages_findListed playlists source).bind fun playlist => ?_
  refine (ignoresPages_tracksOf playlist.id).bind fun tracks => ?_
  refine (ignoresPages_findOrCreate playlists destination).bind fun destinationId => ?_
  exact (ignoresPages_addPieces _ _ _).bind fun _ => ignoresPages_done _

theorem ignoresPages_randomize (name : String) (shuffle : Shuffle) :
    (randomize name shuffle).IgnoresPages newId := by
  refine ignoresPages_allPlaylists.bind fun playlists => ?_
  refine (ignoresPages_findListed playlists name).bind fun playlist => ?_
  refine (ignoresPages_tracksOf playlist.id).bind fun tracks => ?_
  split
  · exact ignoresPages_done _
  · refine (ignoresPages_replace _ _ _).bind fun _ => ?_
    exact (ignoresPages_addPieces _ _ _).bind fun _ => ignoresPages_done _

/-- No job has regard to the page size. -/
theorem ignoresPages_dialogue (settings : Settings) (shuffle : Shuffle) (job : Job) :
    (job.dialogue settings shuffle).IgnoresPages newId := by
  cases job with
  | daily => exact ignoresPages_merge _
  | subscriptions => exact ignoresPages_merge _
  | list filter sort => exact ignoresPages_list filter sort
  | copy source destination isShuffled => exact ignoresPages_copy source destination _
  | randomize name => exact ignoresPages_randomize name shuffle

/-! ## Jobs in a row -/

/-- A job with what is left to chance in it. -/
structure Errand where
  /-- The job. -/
  job : Job
  /-- The ids of playlists that are created. -/
  newId : IdSource
  /-- The order into which tracks are put. -/
  shuffle : Shuffle

/-- The attempt at the job in which every call gets through. -/
def Errand.attempt (errand : Errand) : Attempt :=
  ⟨errand.job, errand.newId, errand.shuffle, .none⟩

/-- What a job comes to. -/
structure Account where
  /-- The job. -/
  job : Job
  /-- What the job yields, or how it fails. -/
  result : Except Failure job.Product
  /-- The writes that it adds to the record. -/
  recorded : List Write
  /-- What the library holds afterwards. -/
  snapshot : Snapshot

/-- What an errand on a library comes to. -/
def Errand.account (settings : Settings) (errand : Errand) (library : Library) : Account where
  job := errand.job
  result := (errand.attempt.run settings library).result
  recorded := (errand.attempt.run settings library).library.writes.drop library.writes.length
  snapshot := (errand.attempt.run settings library).library.snapshot

/-- What errands come to, of which each finds the library as the ones before have left it. -/
def accounts (settings : Settings) : List Errand → Library → List Account
  | [], _ => []
  | errand :: rest, library =>
    errand.account settings library ::
      accounts settings rest (errand.attempt.run settings library).library

theorem Errand.account_withPageSize (settings : Settings) (errand : Errand) (library : Library)
    (size : Nat) :
    errand.account settings (library.withPageSize size) = errand.account settings library ∧
      (errand.attempt.run settings (library.withPageSize size)).library =
        (errand.attempt.run settings library).library.withPageSize size := by
  have hrun : (errand.attempt.run settings (library.withPageSize size)).result =
        (errand.attempt.run settings library).result ∧
      (errand.attempt.run settings (library.withPageSize size)).library =
        (errand.attempt.run settings library).library.withPageSize size :=
    ignoresPages_dialogue settings errand.shuffle errand.job library size
  refine ⟨?_, hrun.2⟩
  simp only [account, hrun.1, hrun.2]
  rfl

/-- With another page size errands come to the same, and leave the same but for the page size. -/
theorem accounts_withPageSize_eq (settings : Settings) (errands : List Errand) (library : Library)
    (size : Nat) :
    accounts settings errands (library.withPageSize size) = accounts settings errands library ∧
      afterAttempts settings (errands.map Errand.attempt) (library.withPageSize size) =
        (afterAttempts settings (errands.map Errand.attempt) library).withPageSize size := by
  induction errands generalizing library with
  | nil => exact ⟨rfl, rfl⟩
  | cons errand rest ih =>
    obtain ⟨haccount, hlibrary⟩ := errand.account_withPageSize settings library size
    obtain ⟨haccounts, hafter⟩ := ih (errand.attempt.run settings library).library
    rw [List.map_cons, afterAttempts_cons, afterAttempts_cons, hlibrary, hafter, accounts,
      accounts, haccount, hlibrary, haccounts]
    exact ⟨rfl, rfl⟩

/-- Whatever jobs are done one after the other on a library, two page sizes make no difference to
what each of them yields, writes and leaves, nor to what is there in the end. A page size of zero is
one of one. -/
theorem accounts_withPageSize (settings : Settings) (errands : List Errand) (library : Library)
    (size other : Nat) :
    accounts settings errands (library.withPageSize size) =
        accounts settings errands (library.withPageSize other) ∧
      (afterAttempts settings (errands.map Errand.attempt) (library.withPageSize size)).snapshot =
        (afterAttempts settings (errands.map Errand.attempt)
          (library.withPageSize other)).snapshot ∧
      (afterAttempts settings (errands.map Errand.attempt) (library.withPageSize size)).writes =
        (afterAttempts settings (errands.map Errand.attempt) (library.withPageSize other)).writes ∧
      library.withPageSize 0 = library.withPageSize 1 := by
  obtain ⟨hsize, hafterSize⟩ := accounts_withPageSize_eq settings errands library size
  obtain ⟨hother, hafterOther⟩ := accounts_withPageSize_eq settings errands library other
  rw [hsize, hother, hafterSize, hafterOther]
  exact ⟨rfl, rfl, rfl, rfl⟩

end Curation

end PlaylistCurator
