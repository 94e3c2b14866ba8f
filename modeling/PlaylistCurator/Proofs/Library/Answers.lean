import PlaylistCurator.Proofs.Library.Contents
import PlaylistCurator.Proofs.Service.Course

/-!
# The answers of a library

What a library answers to the calls that the commands make, and the libraries that can come about
from a snapshot by such calls:

* `Library.Reachable`: the libraries that can come about;
* `Library.Reachable.isSynced`: their track counts are right;
* `Library.Reachable.replay`: calls lead from one of them to another one.
-/

namespace PlaylistCurator.Library

variable {newId : IdSource} {library : Library}

/-! ## Writes -/

/-- Adding tracks to the items of a playlist is adding them to the first one with its id. -/
theorem changeItems?_append {id : String} {tracks : List String} {playlists : List StoredPlaylist}
    (hid : id ∈ playlists.map (·.playlist.id)) :
    changeItems? id (· ++ tracks.map Item.ofTrack) playlists =
      some (addFirst (·.playlist.id == id) tracks playlists) := by
  induction playlists with
  | nil => simp at hid
  | cons stored rest ih =>
    by_cases hstored : stored.playlist.id = id
    -- Both change the first playlist with the id, and it is this one.
    · simp [changeItems?, addFirst, hstored, StoredPlaylist.withAdded]
    · have hrest : id ∈ rest.map (·.playlist.id) := by
        rw [List.map_cons, List.mem_cons] at hid
        exact hid.resolve_left (Ne.symm hstored)
      simp [changeItems?, addFirst, hstored, ih hrest]

/-- A piece of tracks that is not too long is added to a playlist that is there. -/
theorem answer_add {id : String} {tracks : List String} (hid : id ∈ library.ids)
    (hlength : tracks.length ≤ maxTracksPerCall) :
    library.answer newId (.add id tracks) = .ok ((), library.added id [tracks]) := by
  simp only [answer, writeItems, if_neg (Nat.not_lt.2 hlength), changeItems?_append hid,
    Except.map, added]
  simp

/-- The items of a playlist that is there can be changed. -/
theorem exists_changeItems? {id : String} (change : List Item → List Item)
    {playlists : List StoredPlaylist} (hid : id ∈ playlists.map (·.playlist.id)) :
    ∃ changed, changeItems? id change playlists = some changed := by
  induction playlists with
  | nil => simp at hid
  | cons stored rest ih =>
    by_cases hstored : stored.playlist.id = id
    · exact ⟨_, if_pos hstored⟩
    · rw [List.map_cons, List.mem_cons] at hid
      obtain ⟨changed, hchanged⟩ := ih (hid.resolve_left (Ne.symm hstored))
      exact ⟨stored :: changed, by simp [changeItems?, hstored, hchanged]⟩

/-- A playlist is created whatever its name. -/
theorem answer_create (owner name : String) (isPublic : Bool) :
    library.answer newId (.create owner name isPublic) =
      .ok (newPlaylist (newId library.ids).1 owner name isPublic,
        library.create (newPlaylist (newId library.ids).1 owner name isPublic)
          (.create name isPublic)) := rfl

/-- Changing the items of a playlist keeps right track counts right. -/
theorem synced_of_mem_changeItems? {id : String} {change : List Item → List Item}
    {playlists changed : List StoredPlaylist} (h : changeItems? id change playlists = some changed)
    (hsynced : ∀ stored ∈ playlists, stored.synced = stored) :
    ∀ stored ∈ changed, stored.synced = stored := by
  induction playlists generalizing changed with
  | nil => simp [changeItems?] at h
  | cons first rest ih =>
    rw [List.forall_mem_cons] at hsynced
    unfold changeItems? at h
    split at h
    · obtain rfl := Option.some.inj h
      exact List.forall_mem_cons.2 ⟨rfl, hsynced.2⟩
    · obtain ⟨changedRest, hrest, rfl⟩ := Option.map_eq_some_iff.1 h
      exact List.forall_mem_cons.2 ⟨hsynced.1, ih hrest hsynced.2⟩

/-- There is nothing to change if no playlist has the id. -/
theorem changeItems?_eq_none_iff {id : String} {change : List Item → List Item}
    {playlists : List StoredPlaylist} :
    changeItems? id change playlists = none ↔ id ∉ playlists.map (·.playlist.id) := by
  constructor
  · intro hnone hid
    obtain ⟨changed, hchanged⟩ := exists_changeItems? change hid
    rw [hnone] at hchanged
    cases hchanged
  · intro hid
    induction playlists with
    | nil => rfl
    | cons stored rest ih =>
      rw [List.map_cons, List.mem_cons, not_or] at hid
      simp [changeItems?, Ne.symm hid.1, ih hid.2]

/-- A library refuses a write to the items of a playlist for a cause: there are too many tracks or,
if not, the playlist is not there. -/
def Refuses (library : Library) (id : String) (tracks : List String) (cause : Cause) : Prop :=
  (maxTracksPerCall < tracks.length ∧ cause = .tooManyTracks tracks.length maxTracksPerCall) ∨
    (tracks.length ≤ maxTracksPerCall ∧ id ∉ library.ids ∧ cause = .unknownPlaylist id)

/-- The writes to items that are refused, and why. -/
theorem writeItems_eq_error_iff {id : String} {tracks : List String}
    {change : List Item → List Item} {write : Write} {cause : Cause} :
    (library.writeItems id tracks change write).map (((), ·) : Library → Unit × Library) =
      .error cause ↔ library.Refuses id tracks cause := by
  unfold writeItems Refuses
  by_cases hlong : maxTracksPerCall < tracks.length
  · simp [hlong, Nat.not_le.2 hlong, Except.map, eq_comm]
  · cases hchange : changeItems? id change library.playlists with
    | none =>
      have hid : id ∉ library.ids := changeItems?_eq_none_iff.1 hchange
      simp [hlong, hid, Except.map, Nat.le_of_not_lt hlong, eq_comm]
    | some changed =>
      have hid : id ∈ library.ids := by
        by_contra hid
        rw [changeItems?_eq_none_iff.2 hid] at hchange
        cases hchange
      simp [hlong, hid, Except.map]

/-- What a write to the items of a playlist does when it is carried out. -/
theorem eq_of_writeItems_eq_ok {id : String} {tracks : List String}
    {change : List Item → List Item} {write : Write} {reply : Unit} {after : Library}
    (h : (library.writeItems id tracks change write).map ((), ·) = .ok (reply, after)) :
    ∃ changed, changeItems? id change library.playlists = some changed ∧
      after = { library with
        snapshot.playlists := changed, writes := library.writes ++ [write] } := by
  unfold writeItems at h
  split at h
  · cases h
  · split at h
    · cases h
    · rename_i changed hchanged
      obtain ⟨-, rfl⟩ := Prod.mk.inj (Except.ok.inj h)
      exact ⟨changed, hchanged, rfl⟩

/-- Every call keeps right track counts right. -/
theorem IsSynced.answer (hsynced : library.IsSynced) {call : Call} {reply : call.Reply}
    {after : Library} (h : library.answer newId call = .ok (reply, after)) : after.IsSynced := by
  cases call with
  | userId | playlists | playlistsAfter | items | itemsAfter =>
    rw [answer_of_isWrite_eq_false newId rfl h]
    exact hsynced
  | create owner name isPublic =>
    -- The created playlist is empty, and so it is counted.
    obtain ⟨-, rfl⟩ := Prod.mk.inj (Except.ok.inj (answer_create owner name isPublic ▸ h))
    intro stored hstored
    rcases List.mem_append.1 hstored with hstored | hstored
    · exact hsynced stored hstored
    · rw [List.mem_singleton.1 hstored]
      rfl
  | add id tracks =>
    obtain ⟨changed, hchanged, rfl⟩ := eq_of_writeItems_eq_ok h
    exact synced_of_mem_changeItems? hchanged hsynced
  | replace id tracks =>
    obtain ⟨changed, hchanged, rfl⟩ := eq_of_writeItems_eq_ok h
    exact synced_of_mem_changeItems? hchanged hsynced

/-! ## What calls leave alone -/

/-- Only creating a playlist changes the ids. -/
theorem ids_answer {call : Call} {reply : call.Reply} {after : Library}
    (h : library.answer newId call = .ok (reply, after))
    (hcreate : ∀ owner name isPublic, call ≠ .create owner name isPublic) :
    after.ids = library.ids := by
  cases call with
  | userId | playlists | playlistsAfter | items | itemsAfter =>
    rw [answer_of_isWrite_eq_false newId rfl h]
  | create owner name isPublic => exact absurd rfl (hcreate owner name isPublic)
  | add id tracks =>
    obtain ⟨changed, hchanged, rfl⟩ := eq_of_writeItems_eq_ok h
    exact map_id_changeItems? hchanged
  | replace id tracks =>
    obtain ⟨changed, hchanged, rfl⟩ := eq_of_writeItems_eq_ok h
    exact map_id_changeItems? hchanged

/-- Changing the items of a playlist changes no list of what the items and their number have no part
in. -/
theorem map_changeItems? {α : Type} {view : StoredPlaylist → α}
    (hview : ∀ stored items, view { stored with items }.synced = view stored) {id : String}
    {change : List Item → List Item} {playlists changed : List StoredPlaylist}
    (h : changeItems? id change playlists = some changed) :
    changed.map view = playlists.map view := by
  induction playlists generalizing changed with
  | nil => simp [changeItems?] at h
  | cons stored rest ih =>
    unfold changeItems? at h
    split at h
    · obtain rfl := Option.some.inj h
      rw [List.map_cons, hview, List.map_cons]
    · obtain ⟨changedRest, hrest, rfl⟩ := Option.map_eq_some_iff.1 h
      rw [List.map_cons, ih hrest, List.map_cons]

/-- No call takes a playlist away or moves one, or changes anything but its items. -/
theorem prefix_map_answer {α : Type} {view : StoredPlaylist → α}
    (hview : ∀ stored items, view { stored with items }.synced = view stored) {call : Call}
    {reply : call.Reply} {after : Library} (h : library.answer newId call = .ok (reply, after)) :
    library.playlists.map view <+: after.playlists.map view := by
  cases call with
  | userId | playlists | playlistsAfter | items | itemsAfter =>
    obtain rfl := answer_of_isWrite_eq_false newId rfl h
    exact List.prefix_refl _
  | create owner name isPublic =>
    -- The created playlist is put last.
    obtain ⟨-, rfl⟩ := Prod.mk.inj (Except.ok.inj (answer_create owner name isPublic ▸ h))
    exact (List.prefix_append library.playlists _).map view
  | add id tracks =>
    obtain ⟨changed, hchanged, rfl⟩ := eq_of_writeItems_eq_ok h
    exact (map_changeItems? hview hchanged).symm ▸ List.prefix_refl _
  | replace id tracks =>
    obtain ⟨changed, hchanged, rfl⟩ := eq_of_writeItems_eq_ok h
    exact (map_changeItems? hview hchanged).symm ▸ List.prefix_refl _

/-- No calls take a playlist away or move one, or change anything but its items. -/
theorem prefix_map_replay {α : Type} {view : StoredPlaylist → α}
    (hview : ∀ stored items, view { stored with items }.synced = view stored) (library : Library)
    (newId : IdSource) (calls : List Call) :
    library.playlists.map view <+: (library.replay newId calls).playlists.map view :=
  replay_of_answer newId calls
    (motive := fun after => library.playlists.map view <+: after.playlists.map view)
    (List.prefix_refl _)
    fun hprefix hanswer => hprefix.trans (prefix_map_answer hview hanswer)

/-- No calls take an id away or move it. -/
theorem ids_prefix_replay (library : Library) (newId : IdSource) (calls : List Call) :
    library.ids <+: (library.replay newId calls).ids :=
  prefix_map_replay (fun _ _ => rfl) library newId calls

/-- Calls that create no playlist keep the ids. -/
theorem ids_replay {calls : List Call}
    (hcreate : ∀ call ∈ calls, ∀ owner name isPublic, call ≠ .create owner name isPublic) :
    (library.replay newId calls).ids = library.ids := by
  induction calls generalizing library with
  | nil => rfl
  | cons call rest ih =>
    rw [List.forall_mem_cons] at hcreate
    rw [replay_cons, ih hcreate.2]
    cases hanswer : library.answer newId call with
    | error cause => rw [afterCall_of_refusal newId hanswer]
    | ok answered => rw [afterCall_of_answer newId hanswer, ids_answer hanswer hcreate.1]

/-- Distinct ids stay distinct, whatever a library answers. -/
theorem nodup_ids_answer (hids : library.ids.Nodup) {call : Call} {reply : call.Reply}
    {after : Library} (h : library.answer newId call = .ok (reply, after)) : after.ids.Nodup := by
  cases call with
  | create owner name isPublic =>
    obtain ⟨-, rfl⟩ := Prod.mk.inj (Except.ok.inj (answer_create owner name isPublic ▸ h))
    exact nodup_ids_create hids newId owner name isPublic _
  | _ =>
    have hsame : after.ids = library.ids := ids_answer h (by simp)
    exact hsame ▸ hids

/-- Distinct ids stay distinct, whatever calls are made. -/
theorem nodup_ids_replay (hids : library.ids.Nodup) (newId : IdSource) (calls : List Call) :
    (library.replay newId calls).ids.Nodup :=
  replay_of_answer newId calls (motive := fun after => after.ids.Nodup) hids
    fun hids hanswer => nodup_ids_answer hids hanswer

/-! ## Libraries that can come about -/

/-- The libraries that can come about: made from a snapshot, given a page size, or left by a call
that was answered. -/
inductive Reachable : Library → Prop
  | ofSnapshot (snapshot : Snapshot) : Reachable (Library.ofSnapshot snapshot)
  | withPageSize {library : Library} (size : Nat) :
      Reachable library → Reachable (library.withPageSize size)
  | answer {library after : Library} {newId : IdSource} {call : Call} {reply : call.Reply} :
      Reachable library → library.answer newId call = .ok (reply, after) → Reachable after

/-- A library that can come about has right track counts. -/
theorem Reachable.isSynced (h : library.Reachable) : library.IsSynced := by
  induction h with
  | ofSnapshot snapshot =>
    -- The counts are brought up to date when the library is made.
    intro stored hstored
    obtain ⟨given, -, rfl⟩ := List.mem_map.1 hstored
    exact StoredPlaylist.synced_synced given
  | withPageSize size _ ih => exact ih
  | answer _ hanswer ih => exact ih.answer hanswer

/-- Calls lead from a library that can come about to another one. -/
theorem Reachable.replay (h : library.Reachable) (newId : IdSource) (calls : List Call) :
    (library.replay newId calls).Reachable :=
  replay_of_answer newId calls h fun hreach hanswer => hreach.answer hanswer

end PlaylistCurator.Library
