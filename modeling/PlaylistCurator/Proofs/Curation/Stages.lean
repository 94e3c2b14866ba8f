import PlaylistCurator.Proofs.Curation.CopyCourse

/-!
# The stages of a command that writes tracks

Merging and copying make their calls in four stages: they read, they create the playlist that is
missing, they may read again, and they add tracks in pieces. Shuffling makes them in two: it reads
and then rewrites a playlist in pieces. The stage at which such a command is interrupted says what
has become of the library:

* `Stages.replay_eq`: the library after the calls before a given one, for the four stages;
* `replay_eq_rewritten`: the same for the two stages of shuffling;
* `flatten_take_chunks`: the tracks of the first pieces are the first tracks.
-/

namespace PlaylistCurator

/-- Whether a call adds tracks to a playlist. -/
def Call.isAdd : Call → Bool
  | .add .. => true
  | _ => false

/-- A call that only reads does not add tracks. -/
theorem Call.isAdd_eq_false_of_isWrite {call : Call} (h : call.isWrite = false) :
    call.isAdd = false := by
  cases call with
  | add => cases h
  | _ => rfl

/-- No call of those that only read adds tracks. -/
theorem countP_isAdd_of_reads {reads : List Call} (h : ∀ call ∈ reads, call.isWrite = false) :
    reads.countP Call.isAdd = 0 :=
  List.countP_eq_zero.2 fun call hcall => by simp [Call.isAdd_eq_false_of_isWrite (h call hcall)]

/-- All calls that add pieces do add tracks. -/
theorem countP_isAdd_map_add (id : String) (pieces : List (List String)) :
    (pieces.map (Call.add id)).countP Call.isAdd = pieces.length := by
  simp [List.countP_map, Function.comp_def, Call.isAdd]

/-- A beginning of two lists put together ends in the first of them, or contains it. -/
theorem concat_isPrefix_append {α : Type} {before first second : List α} {last : α}
    (h : before ++ [last] <+: first ++ second) :
    before ++ [last] <+: first ∨ ∃ more, before = first ++ more ∧ more ++ [last] <+: second := by
  rcases List.prefix_or_prefix_of_prefix h (List.prefix_append first second) with hleft | hright
  · exact .inl hleft
  · rcases List.prefix_concat_iff.1 hright with heq | hbefore
    · exact .inl (heq ▸ List.prefix_refl _)
    · obtain ⟨more, rfl⟩ := hbefore
      rw [List.append_assoc, List.prefix_append_right_inj] at h
      exact .inr ⟨more, rfl, h⟩

section Pieces

variable {α : Type}

/-- What comes after the first piece of a list is what is left of it without as many entries as
fit. -/
theorem drop_max_sub_one (size : Nat) (entry : α) (rest : List α) :
    rest.drop (max size 1 - 1) = (entry :: rest).drop (max size 1) := by
  rw [← Nat.sub_add_cancel (Nat.le_max_right size 1), List.drop_succ_cons, Nat.add_sub_cancel]

/-- The first piece of a list has as many of its entries as fit, and the other pieces are those of
the rest. -/
theorem chunks_of_ne_nil {size : Nat} {entries : List α} (h : entries ≠ []) :
    chunks size entries =
      entries.take (max size 1) :: chunks size (entries.drop (max size 1)) := by
  obtain ⟨entry, rest, rfl⟩ := List.exists_cons_of_ne_nil h
  rw [chunks, drop_max_sub_one]

/-- The first pieces of a list hold its first entries. -/
theorem flatten_take_chunks (size : Nat) (entries : List α) (count : Nat) :
    ((chunks size entries).take count).flatten = entries.take (max size 1 * count) := by
  fun_induction chunks size entries generalizing count with
  | case1 => simp
  | case2 entry rest ih =>
    cases count with
    | zero => simp
    | succ count =>
      rw [List.take_succ_cons, List.flatten_cons, ih, drop_max_sub_one size entry, Nat.mul_succ,
        Nat.add_comm, List.take_add]

/-- The entries before a piece of a list are not all of them. -/
theorem mul_lt_length_of_lt_length_chunks {size count : Nat} {entries : List α}
    (h : count < (chunks size entries).length) : max size 1 * count < entries.length := by
  fun_induction chunks size entries generalizing count with
  | case1 => cases h
  | case2 entry rest ih =>
    cases count with
    | zero => exact Nat.succ_pos _
    | succ count =>
      -- The first piece comes before all others.
      have hrest := ih (Nat.lt_of_succ_lt_succ h)
      rw [List.length_drop] at hrest
      rw [Nat.mul_succ, List.length_cons]
      omega

end Pieces

namespace Curation

variable {newId : IdSource} {library : Library}

/-- Creating a playlist that is missing leads to the library with it. -/
theorem replay_creationCalls (newId : IdSource) (library : Library) (name : String) :
    library.replay newId (creationCalls library name) = library.withNamed newId name := by
  cases hfind : library.firstNamed? name with
  | some target =>
    rw [creationCalls, hfind, Library.withNamed_of_isSome (by simp [hfind])]
    rfl
  | none =>
    rw [creationCalls, hfind, Library.withNamed_of_eq_none hfind]
    rfl

/-- Calls that add pieces of tracks lead to the library with these tracks. -/
theorem replay_adds (newId : IdSource) {id : String} {pieces : List (List String)}
    (hsynced : library.IsSynced) (hid : id ∈ library.ids)
    (hpieces : ∀ piece ∈ pieces, piece.length ≤ maxTracksPerCall) :
    library.replay newId (pieces.map (.add id)) = library.added id pieces := by
  have hyields := yields_addPieces newId (.addTracks id) hsynced hid hpieces
  have hreplay := Dialogue.library_run_eq_replay newId
    (addPieces (.addTracks id) id pieces) library
  rw [hyields] at hreplay
  exact hreplay.symm

/-- Before the last of some reads the library is as it was. -/
theorem replay_eq_of_isPrefix_reads {reads before : List Call} {call : Call} (newId : IdSource)
    (library : Library) (hreads : ∀ call ∈ reads, call.isWrite = false)
    (hbegin : before ++ [call] <+: reads) : library.replay newId before = library := by
  refine Library.replay_of_forall_isWrite_eq_false newId fun other hother => ?_
  exact hreads other (hbegin.subset (List.mem_append_left _ hother))

/-- Before the last of some reads and of the calls that create a missing playlist, the library is as
it was. -/
theorem replay_eq_of_isPrefix_creation {reads before : List Call} {call : Call} {name : String}
    (newId : IdSource) (library : Library) (hreads : ∀ call ∈ reads, call.isWrite = false)
    (hbegin : before ++ [call] <+: reads ++ creationCalls library name) :
    library.replay newId before = library := by
  rcases concat_isPrefix_append hbegin with hbegin | ⟨more, rfl, hmore⟩
  · exact replay_eq_of_isPrefix_reads newId library hreads hbegin
  · -- The only call before the creation asks for the user.
    have hmoreReads : ∀ other ∈ more, other.isWrite = false := by
      unfold creationCalls at hmore
      split at hmore
      · simp at hmore
      · rcases more with _ | ⟨asking, _ | ⟨_, _⟩⟩
        · simp
        · obtain ⟨rfl, -⟩ := List.cons_prefix_cons.1 hmore
          simp [Call.isWrite]
        · simpa using hmore.length_le
    rw [Library.replay_append, Library.replay_of_forall_isWrite_eq_false newId hreads,
      Library.replay_of_forall_isWrite_eq_false newId hmoreReads]

/-- What is needed for the calls of a command to go through the four stages: `first` and `second`
are reads, and between them the playlist of a name is created if it is missing, to which the pieces
are added in the end. -/
structure Stages (newId : IdSource) (library : Library) (name id : String)
    (first second : List Call) (pieces : List (List String)) : Prop where
  /-- The first stage reads. -/
  first_read : ∀ call ∈ first, call.isWrite = false
  /-- The third stage reads. -/
  second_read : ∀ call ∈ second, call.isWrite = false
  /-- Track counts are right. -/
  isSynced : library.IsSynced
  /-- The tracks are added to a playlist that is there. -/
  id_mem : id ∈ (library.withNamed newId name).ids
  /-- The pieces are not too long. -/
  pieces_le : ∀ piece ∈ pieces, piece.length ≤ maxTracksPerCall

namespace Stages

variable {name id : String} {first second : List Call} {pieces : List (List String)}

/-- The calls of the four stages. -/
def calls (library : Library) (name id : String) (first second : List Call)
    (pieces : List (List String)) : List Call :=
  first ++ creationCalls library name ++ second ++ pieces.map (.add id)

/-- The library after the first three stages. -/
theorem replay_reads_creation (h : Stages newId library name id first second pieces)
    {more : List Call} (hmore : ∀ call ∈ more, call.isWrite = false) :
    library.replay newId (first ++ creationCalls library name ++ more) =
      library.withNamed newId name := by
  rw [Library.replay_append, Library.replay_append,
    Library.replay_of_forall_isWrite_eq_false newId h.first_read, replay_creationCalls,
    Library.replay_of_forall_isWrite_eq_false newId hmore]

/-- No call of the first three stages adds tracks. -/
theorem isAdd_eq_false (h : Stages newId library name id first second pieces) {call : Call}
    (hcall : call ∈ first ++ creationCalls library name ++ second) : call.isAdd = false := by
  simp only [List.mem_append] at hcall
  rcases hcall with (hcall | hcall) | hcall
  · exact Call.isAdd_eq_false_of_isWrite (h.first_read call hcall)
  · unfold creationCalls at hcall
    split at hcall
    · cases hcall
    · simp only [List.mem_cons, List.not_mem_nil, or_false] at hcall
      rcases hcall with rfl | rfl <;> rfl
  · exact Call.isAdd_eq_false_of_isWrite (h.second_read call hcall)

/-- Before the calls that add tracks, the library is as it was, or the missing playlist has been
created. -/
theorem replay_eq_of_isPrefix (h : Stages newId library name id first second pieces)
    {before : List Call} {call : Call}
    (hbegin : before ++ [call] <+: first ++ creationCalls library name ++ second) :
    library.replay newId before = library ∨
      second ≠ [] ∧ library.replay newId before = library.withNamed newId name := by
  rcases concat_isPrefix_append hbegin with hbegin | ⟨more, rfl, hmore⟩
  · exact .inl (replay_eq_of_isPrefix_creation newId library h.first_read hbegin)
  · right
    refine ⟨?_, h.replay_reads_creation fun other hother => ?_⟩
    · rintro rfl
      simp at hmore
    · exact h.second_read other (hmore.subset (List.mem_append_left _ hother))

/-- The library after the calls before a given one: until tracks are added it is as it was, or the
missing playlist has been created; then it has the tracks of as many pieces as were added. -/
theorem replay_eq (h : Stages newId library name id first second pieces)
    {before : List Call} {call : Call}
    (hbegin : before ++ [call] <+: Stages.calls library name id first second pieces) :
    (call.isAdd = false ∧ (library.replay newId before = library ∨
        second ≠ [] ∧ library.replay newId before = library.withNamed newId name)) ∨
      (call.isAdd = true ∧ library.replay newId before =
        (library.withNamed newId name).added id (pieces.take (before.countP Call.isAdd))) := by
  -- Either the call belongs to the first three stages, or these are over.
  rcases concat_isPrefix_append hbegin with hbegin | ⟨more, rfl, hmore⟩
  · left
    refine ⟨h.isAdd_eq_false (hbegin.subset ?_), h.replay_eq_of_isPrefix hbegin⟩
    exact List.mem_append_right _ (List.mem_singleton_self call)
  · right
    have hcall : call ∈ pieces.map (Call.add id) :=
      hmore.subset (List.mem_append_right _ (List.mem_singleton_self call))
    obtain ⟨piece, -, rfl⟩ := List.mem_map.1 hcall
    -- The calls of the last stage that were made are those for the first pieces.
    have htake : more = (pieces.take more.length).map (.add id) := by
      have := List.prefix_iff_eq_take.1 ((List.prefix_append more _).trans hmore)
      rwa [← List.map_take] at this
    -- No other call adds tracks, so that counting those that do counts the pieces.
    have hcount : (first ++ creationCalls library name ++ second ++ more).countP Call.isAdd =
        more.length := by
      have hnone : (first ++ creationCalls library name ++ second).countP Call.isAdd = 0 :=
        List.countP_eq_zero.2 fun other hother => by simp [h.isAdd_eq_false hother]
      have hall : more.countP Call.isAdd = more.length := by
        rw [htake, countP_isAdd_map_add, List.length_map]
      rw [List.countP_append, hnone, hall, Nat.zero_add]
    refine ⟨rfl, ?_⟩
    rw [hcount, Library.replay_append, h.replay_reads_creation h.second_read]
    have hpieces : ∀ piece ∈ pieces.take more.length, piece.length ≤ maxTracksPerCall :=
      fun piece hpiece => h.pieces_le piece (List.mem_of_mem_take hpiece)
    have hadds := replay_adds newId (h.isSynced.withNamed newId name) h.id_mem hpieces
    rw [← htake] at hadds
    exact hadds

end Stages

/-! ## Rewriting -/

/-- Calls that replace the items of a playlist and add pieces to it lead to the library with the
rewritten playlist. -/
theorem replay_rewriteCalls (newId : IdSource) {id : String} {pieces : List (List String)}
    (hsynced : library.IsSynced) (hid : id ∈ library.ids)
    (hpieces : ∀ piece ∈ pieces, piece.length ≤ maxTracksPerCall) :
    library.replay newId (rewriteCalls id pieces) = library.rewritten id pieces := by
  cases pieces with
  | nil => rfl
  | cons first rest =>
    rw [List.forall_mem_cons] at hpieces
    have hanswer := Library.answer_replace newId hid hpieces.1
    have hids : (library.replaced id first).ids = library.ids :=
      Library.ids_answer hanswer (by simp)
    rw [rewriteCalls, Library.replay_cons, Library.afterCall_of_answer newId hanswer]
    exact replay_adds newId (hsynced.answer hanswer) (hids ▸ hid) hpieces.2

/-- The first calls that rewrite a playlist write its first pieces. -/
theorem take_rewriteCalls (id : String) (pieces : List (List String)) (count : Nat) :
    (rewriteCalls id pieces).take count = rewriteCalls id (pieces.take count) := by
  cases count with
  | zero => rfl
  | succ count =>
    cases pieces with
    | nil => rfl
    | cons first rest => simp [rewriteCalls, List.map_take]

/-- A playlist is rewritten in as many calls as there are pieces. -/
theorem length_rewriteCalls (id : String) (pieces : List (List String)) :
    (rewriteCalls id pieces).length = pieces.length := by
  cases pieces with
  | nil => rfl
  | cons first rest => simp [rewriteCalls]

/-- All calls that rewrite a playlist but the first one add tracks. -/
theorem countP_isAdd_rewriteCalls (id : String) (pieces : List (List String)) :
    (rewriteCalls id pieces).countP Call.isAdd = pieces.length - 1 := by
  cases pieces with
  | nil => rfl
  | cons first rest =>
    rw [rewriteCalls, List.countP_cons_of_neg (by simp [Call.isAdd]), countP_isAdd_map_add,
      List.length_cons, Nat.add_sub_cancel]

/-- The last of several calls that rewrite a playlist adds tracks. -/
theorem exists_eq_add_of_rewriteCalls {id : String} {pieces : List (List String)}
    {more : List Call} {call : Call} (hmore : more ≠ [])
    (h : more ++ [call] = rewriteCalls id pieces) : ∃ piece, call = .add id piece := by
  obtain ⟨replacing, adds, rfl⟩ := List.exists_cons_of_ne_nil hmore
  cases pieces with
  | nil => cases h
  | cons first rest =>
    rw [rewriteCalls, List.cons_append] at h
    have hmem : call ∈ rest.map (Call.add id) := by simp [← (List.cons.inj h).2]
    obtain ⟨piece, -, rfl⟩ := List.mem_map.1 hmem
    exact ⟨piece, rfl⟩

/-- The library after the calls before a given one, where reads are followed by calls that rewrite a
playlist: as many pieces have been written as calls that add tracks were made, counting the given
one. -/
theorem replay_eq_rewritten {id : String} {reads before : List Call} {call : Call}
    {pieces : List (List String)} (newId : IdSource)
    (hreads : ∀ call ∈ reads, call.isWrite = false) (hsynced : library.IsSynced)
    (hid : id ∈ library.ids) (hpieces : ∀ piece ∈ pieces, piece.length ≤ maxTracksPerCall)
    (hbegin : before ++ [call] <+: reads ++ rewriteCalls id pieces) :
    library.replay newId before =
        library.rewritten id (pieces.take ((before ++ [call]).countP Call.isAdd)) ∧
      (0 < (before ++ [call]).countP Call.isAdd →
        (before ++ [call]).countP Call.isAdd < pieces.length ∧
          ∃ piece, call = .add id piece) := by
  have hnone := countP_isAdd_of_reads hreads
  rcases concat_isPrefix_append hbegin with hbegin | ⟨more, rfl, hmore⟩
  · -- Only reads were made.
    have hcount : (before ++ [call]).countP Call.isAdd = 0 :=
      Nat.le_zero.1 (hnone ▸ hbegin.sublist.countP_le)
    rw [hcount, replay_eq_of_isPrefix_reads newId library hreads hbegin]
    exact ⟨rfl, fun hpos => absurd hpos (Nat.lt_irrefl 0)⟩
  · -- As many pieces were written as calls were made after the reads.
    have hlength : more.length + 1 ≤ pieces.length := by
      simpa [length_rewriteCalls] using hmore.length_le
    have hmade : more ++ [call] = rewriteCalls id (pieces.take (more.length + 1)) := by
      rw [← take_rewriteCalls]
      simpa using List.prefix_iff_eq_take.1 hmore
    have hbefore : more = rewriteCalls id (pieces.take more.length) := by
      rw [← take_rewriteCalls]
      exact List.prefix_iff_eq_take.1 ((List.prefix_append more _).trans hmore)
    have hcount : (reads ++ more ++ [call]).countP Call.isAdd = more.length := by
      rw [List.append_assoc, List.countP_append, hnone, hmade, countP_isAdd_rewriteCalls,
        List.length_take]
      omega
    rw [hcount]
    refine ⟨?_, fun hpos => ⟨hlength, ?_⟩⟩
    · rw [Library.replay_append, Library.replay_of_forall_isWrite_eq_false newId hreads,
        ← replay_rewriteCalls newId hsynced hid fun piece hpiece =>
          hpieces piece (List.mem_of_mem_take hpiece), ← hbefore]
    · exact exists_eq_add_of_rewriteCalls (List.ne_nil_of_length_pos hpos) hmade

end Curation

end PlaylistCurator
