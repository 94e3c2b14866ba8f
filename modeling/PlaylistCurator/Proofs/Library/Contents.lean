import Mathlib.Data.List.Nodup
import PlaylistCurator.Service.Run

/-!
# What a library holds

The views of a library in which the commands are described: playlists to which tracks have been
added (`addFirst`, `Library.added`) and a playlist of a name that is there or has been created
(`Library.withNamed`), with what these operations do to ids, names and tracks. A library is synced
(`Library.IsSynced`) if its track counts are right; the operations keep it so.
-/

namespace PlaylistCurator

/-! ## Adding tracks -/

/-- The playlist with tracks added at its end as plain items, and with its new track count. -/
def StoredPlaylist.withAdded (stored : StoredPlaylist) (tracks : List String) : StoredPlaylist :=
  { stored with items := stored.items ++ tracks.map Item.ofTrack }.synced

namespace StoredPlaylist

@[simp]
theorem id_withAdded (stored : StoredPlaylist) (tracks : List String) :
    (stored.withAdded tracks).playlist.id = stored.playlist.id := rfl

@[simp]
theorem name_withAdded (stored : StoredPlaylist) (tracks : List String) :
    (stored.withAdded tracks).playlist.name = stored.playlist.name := rfl

@[simp]
theorem items_withAdded (stored : StoredPlaylist) (tracks : List String) :
    (stored.withAdded tracks).items = stored.items ++ tracks.map Item.ofTrack := rfl

@[simp]
theorem trackIds_withAdded (stored : StoredPlaylist) (tracks : List String) :
    (stored.withAdded tracks).trackIds = stored.trackIds ++ tracks := by
  simp [trackIds]

@[simp]
theorem synced_withAdded (stored : StoredPlaylist) (tracks : List String) :
    (stored.withAdded tracks).synced = stored.withAdded tracks := rfl

/-- Tracks can be added in two steps. -/
theorem withAdded_withAdded (stored : StoredPlaylist) (tracks more : List String) :
    (stored.withAdded tracks).withAdded more = stored.withAdded (tracks ++ more) := by
  simp [withAdded, synced]

/-- Adding no tracks changes no playlist whose track count is right. -/
theorem withAdded_nil {stored : StoredPlaylist} (h : stored.synced = stored) :
    stored.withAdded [] = stored := by
  simpa [withAdded] using h

end StoredPlaylist

/-- The playlists with tracks added to the first one that is asked for. -/
def addFirst (wanted : StoredPlaylist → Bool) (tracks : List String) :
    List StoredPlaylist → List StoredPlaylist
  | [] => []
  | stored :: rest =>
    if wanted stored then stored.withAdded tracks :: rest
    else stored :: addFirst wanted tracks rest

section AddFirst

variable {wanted other : StoredPlaylist → Bool} {tracks more : List String}
  {playlists : List StoredPlaylist}

/-- Adding tracks changes no list of what adding tracks leaves alone. -/
theorem map_addFirst {α : Type} {view : StoredPlaylist → α}
    (hview : ∀ stored, view (stored.withAdded tracks) = view stored) :
    (addFirst wanted tracks playlists).map view = playlists.map view := by
  induction playlists with
  | nil => rfl
  | cons stored rest ih =>
    by_cases hwanted : wanted stored
    · simp [addFirst, hwanted, hview]
    · simp [addFirst, hwanted, ih]

/-- Adding tracks changes no list of what adding tracks leaves alone, also when the playlists are
picked by what it leaves alone. -/
theorem map_filter_addFirst {α : Type} {view : StoredPlaylist → α}
    (hview : ∀ stored, view (stored.withAdded tracks) = view stored)
    (hother : ∀ stored, other (stored.withAdded tracks) = other stored) :
    ((addFirst wanted tracks playlists).filter other).map view =
      (playlists.filter other).map view := by
  induction playlists with
  | nil => rfl
  | cons stored rest ih =>
    by_cases hwanted : wanted stored
    · by_cases hpicked : other stored <;> simp [addFirst, hwanted, hview, hother, hpicked]
    · by_cases hpicked : other stored <;> simp [addFirst, hwanted, hpicked, ih]

/-- Adding tracks does not change which playlist is the first of a kind, as far as it leaves alone
what is looked at. -/
theorem map_find?_addFirst {α : Type} {view : StoredPlaylist → α}
    (hview : ∀ stored, view (stored.withAdded tracks) = view stored)
    (hother : ∀ stored, other (stored.withAdded tracks) = other stored) :
    ((addFirst wanted tracks playlists).find? other).map view =
      (playlists.find? other).map view := by
  induction playlists with
  | nil => rfl
  | cons stored rest ih =>
    by_cases hwanted : wanted stored
    · by_cases hpicked : other stored <;> simp [addFirst, hwanted, hview, hother, hpicked]
    · by_cases hpicked : other stored <;> simp [addFirst, hwanted, hpicked, ih]

/-- The first playlist that is asked for has the tracks that were added to it. -/
theorem find?_addFirst_self (hwanted : ∀ stored, wanted (stored.withAdded tracks) = wanted stored) :
    (addFirst wanted tracks playlists).find? wanted =
      (playlists.find? wanted).map (·.withAdded tracks) := by
  induction playlists with
  | nil => rfl
  | cons stored rest ih =>
    by_cases h : wanted stored
    · simp [addFirst, h, hwanted]
    · simp [addFirst, h, ih]

/-- Playlists that are not asked for are found as before. -/
theorem find?_addFirst_of_disjoint
    (hother : ∀ stored, other (stored.withAdded tracks) = other stored)
    (hdisjoint : ∀ stored, other stored = true → wanted stored = false) :
    (addFirst wanted tracks playlists).find? other = playlists.find? other := by
  induction playlists with
  | nil => rfl
  | cons stored rest ih =>
    by_cases hpicked : other stored
    · simp [addFirst, hdisjoint stored hpicked, hpicked]
    · by_cases hwanted : wanted stored <;> simp [addFirst, hwanted, hother, hpicked, ih]

/-- Playlists that are picked by something else than what is asked for are picked as before. -/
theorem filter_addFirst_of_disjoint
    (hother : ∀ stored, other (stored.withAdded tracks) = other stored)
    (hdisjoint : ∀ stored, other stored = true → wanted stored = false) :
    (addFirst wanted tracks playlists).filter other = playlists.filter other := by
  induction playlists with
  | nil => rfl
  | cons stored rest ih =>
    by_cases hpicked : other stored
    · simp [addFirst, hdisjoint stored hpicked, hpicked, ih]
    · by_cases hwanted : wanted stored <;> simp [addFirst, hwanted, hother, hpicked, ih]

/-- Among those that are asked for, the first playlist gets the tracks. -/
theorem filter_addFirst_self
    (hwanted : ∀ stored, wanted (stored.withAdded tracks) = wanted stored) :
    (addFirst wanted tracks playlists).filter wanted =
      addFirst wanted tracks (playlists.filter wanted) := by
  induction playlists with
  | nil => rfl
  | cons stored rest ih =>
    by_cases h : wanted stored
    · simp [addFirst, h, hwanted]
    · simp [addFirst, h, ih]

/-- What a beginning of the playlists gets does not depend on the others. -/
theorem take_addFirst (count : Nat) :
    (addFirst wanted tracks playlists).take count =
      addFirst wanted tracks (playlists.take count) := by
  induction playlists generalizing count with
  | nil => simp [addFirst]
  | cons stored rest ih =>
    cases count with
    | zero => rfl
    | succ count => by_cases h : wanted stored <;> simp [addFirst, h, ih]

/-- Tracks can be added to playlists of two kinds in either order, unless a playlist is of both. -/
theorem addFirst_comm (hwanted : ∀ stored, wanted (stored.withAdded more) = wanted stored)
    (hother : ∀ stored, other (stored.withAdded tracks) = other stored)
    (hdisjoint : ∀ stored, other stored = true → wanted stored = false) :
    addFirst wanted tracks (addFirst other more playlists) =
      addFirst other more (addFirst wanted tracks playlists) := by
  induction playlists with
  | nil => rfl
  | cons stored rest ih =>
    by_cases hpicked : other stored
    · simp [addFirst, hpicked, hdisjoint stored hpicked, hwanted]
    · by_cases hfirst : wanted stored
      · simp [addFirst, hpicked, hfirst, hother]
      · simp [addFirst, hpicked, hfirst, ih]

/-- Tracks can be added in two steps. -/
theorem addFirst_addFirst (hwanted : ∀ stored, wanted (stored.withAdded tracks) = wanted stored) :
    addFirst wanted more (addFirst wanted tracks playlists) =
      addFirst wanted (tracks ++ more) playlists := by
  induction playlists with
  | nil => rfl
  | cons stored rest ih =>
    by_cases h : wanted stored
    · simp [addFirst, h, hwanted, StoredPlaylist.withAdded_withAdded]
    · simp [addFirst, h, ih]

/-- Adding no tracks changes nothing where all track counts are right. -/
theorem addFirst_nil (h : ∀ stored ∈ playlists, stored.synced = stored) :
    addFirst wanted [] playlists = playlists := by
  induction playlists with
  | nil => rfl
  | cons stored rest ih =>
    rw [List.forall_mem_cons] at h
    by_cases hwanted : wanted stored
    · simp [addFirst, hwanted, StoredPlaylist.withAdded_nil h.1]
    · simp [addFirst, hwanted, ih h.2]

/-- Right track counts stay right. -/
theorem synced_of_mem_addFirst (h : ∀ stored ∈ playlists, stored.synced = stored) :
    ∀ stored ∈ addFirst wanted tracks playlists, stored.synced = stored := by
  induction playlists with
  | nil => simp [addFirst]
  | cons first rest ih =>
    rw [List.forall_mem_cons] at h
    by_cases hwanted : wanted first
    · simpa [addFirst, hwanted] using h.2
    · simpa [addFirst, hwanted] using And.intro h.1 (ih h.2)

/-- Of the playlists that are asked for only the first one matters. -/
theorem addFirst_congr {stored : StoredPlaylist} (hfind : playlists.find? wanted = some stored)
    (hother : other stored = true)
    (honly : ∀ candidate ∈ playlists, other candidate = true → candidate = stored) :
    addFirst wanted tracks playlists = addFirst other tracks playlists := by
  induction playlists with
  | nil => simp at hfind
  | cons first rest ih =>
    rw [List.forall_mem_cons] at honly
    by_cases hwanted : wanted first
    · obtain rfl : first = stored := by simpa [hwanted] using hfind
      simp [addFirst, hwanted, hother]
    · -- The first playlist that is asked for comes later, and this one is not the one that counts.
      rw [List.find?_cons_of_neg hwanted] at hfind
      have hfirst : other first = false := by
        refine Bool.eq_false_iff.2 fun hfirst => hwanted ?_
        rw [honly.1 hfirst]
        exact List.find?_some hfind
      simp [addFirst, hwanted, hfirst, ih hfind honly.2]

/-- The first playlist that is asked for gets the tracks where it stands. -/
theorem addFirst_append_cons {stored : StoredPlaylist} {earlier later : List StoredPlaylist}
    (hearlier : ∀ candidate ∈ earlier, wanted candidate = false) (hstored : wanted stored = true) :
    addFirst wanted tracks (earlier ++ stored :: later) =
      earlier ++ stored.withAdded tracks :: later := by
  induction earlier with
  | nil => simp [addFirst, hstored]
  | cons first earlier ih =>
    rw [List.forall_mem_cons] at hearlier
    simp [addFirst, hearlier.1, ih hearlier.2]

/-- Where the first playlist that is asked for stands, and that it is replaced there. -/
theorem exists_append_of_find? {stored : StoredPlaylist}
    (hfind : playlists.find? wanted = some stored) :
    wanted stored = true ∧ ∃ earlier later, playlists = earlier ++ stored :: later ∧
      (∀ candidate ∈ earlier, wanted candidate = false) ∧
      ∀ other, playlists.replace stored other = earlier ++ other :: later := by
  obtain ⟨hstored, earlier, later, rfl, hearlier⟩ := List.find?_eq_some_iff_append.1 hfind
  refine ⟨hstored, earlier, later, rfl, by simpa using hearlier, fun other => ?_⟩
  have hnot : stored ∉ earlier := fun hmem => by simpa [hstored] using hearlier stored hmem
  rw [List.replace_append_right hnot, List.replace_cons_self]

/-- The first playlist that is asked for is replaced by the one with the tracks. -/
theorem addFirst_eq_replace {stored : StoredPlaylist} (hfind : playlists.find? wanted = some stored) :
    addFirst wanted tracks playlists = playlists.replace stored (stored.withAdded tracks) := by
  obtain ⟨hstored, earlier, later, hsplit, hearlier, hreplace⟩ := exists_append_of_find? hfind
  rw [hreplace, hsplit, addFirst_append_cons hearlier hstored]

end AddFirst

namespace Library

/-! ## Views of a library -/

/-- The playlists of a library as they are listed. -/
def listing (library : Library) : List Playlist :=
  library.playlists.map (·.playlist)

/-- The first stored playlist of a name. -/
def firstNamed? (library : Library) (name : String) : Option StoredPlaylist :=
  library.playlists.find? (·.playlist.name == some name)

/-- The tracks of the first stored playlist with an id. -/
def tracksAt (library : Library) (id : String) : List String :=
  ((library.find? id).map StoredPlaylist.trackIds).getD []

/-- The library after tracks were added to the playlist with an id in the given pieces. -/
def added (library : Library) (id : String) (pieces : List (List String)) : Library :=
  { library with
    snapshot.playlists := addFirst (·.playlist.id == id) pieces.flatten library.playlists
    writes := library.writes ++ pieces.map (.add id) }

/-- The library after an empty private playlist of a name was created for the user. -/
def withNew (newId : IdSource) (name : String) (library : Library) : Library :=
  library.create (newPlaylist (newId library.ids).1 library.snapshot.userId name false)
    (.create name false)

/-- The library with a playlist of a name, which is created if there is none. -/
def withNamed (newId : IdSource) (name : String) (library : Library) : Library :=
  if (library.firstNamed? name).isSome then library else library.withNew newId name

/-- The track counts of all stored playlists count their items. -/
def IsSynced (library : Library) : Prop :=
  ∀ stored ∈ library.playlists, stored.synced = stored

/-- A right track count says the number of items, up to the largest number it can hold. -/
theorem IsSynced.toNat_total {library : Library} (h : library.IsSynced) {stored : StoredPlaylist}
    (hstored : stored ∈ library.playlists) :
    stored.playlist.tracks.total.toNat = min stored.items.length (UInt32.size - 1) := by
  rw [← h stored hstored]
  exact StoredPlaylist.toNat_total_countOf stored.items

/-- A playlist with an id is found exactly if the id is one of the library's. -/
theorem isSome_find?_iff {library : Library} {id : String} :
    (library.find? id).isSome ↔ id ∈ library.ids := by
  simp [find?, ids, List.find?_isSome]

theorem trackIdsNamed?_eq_map (library : Library) (name : String) :
    library.trackIdsNamed? name = (library.firstNamed? name).map StoredPlaylist.trackIds := rfl

/-- A library has no first playlist of a name exactly if it lists none of the name. -/
theorem firstNamed?_eq_none_iff {library : Library} {name : String} :
    library.firstNamed? name = none ↔
      ∀ playlist ∈ library.listing, playlist.name ≠ some name := by
  simp [firstNamed?, listing]

/-- The id of the first playlist of a name is one of the library's. -/
theorem id_mem_of_firstNamed? {library : Library} {name : String} {stored : StoredPlaylist}
    (h : library.firstNamed? name = some stored) : stored.playlist.id ∈ library.ids :=
  List.mem_map.2 ⟨stored, List.mem_of_find?_eq_some h, rfl⟩

theorem ids_added (library : Library) (id : String) (pieces : List (List String)) :
    (library.added id pieces).ids = library.ids :=
  map_addFirst fun _ => rfl

/-- Adding in two steps is adding all pieces. -/
theorem added_added (library : Library) (id : String) (pieces more : List (List String)) :
    (library.added id pieces).added id more = library.added id (pieces ++ more) := by
  have hplaylists : addFirst (·.playlist.id == id) more.flatten
      (addFirst (·.playlist.id == id) pieces.flatten library.snapshot.playlists) =
      addFirst (·.playlist.id == id) (pieces.flatten ++ more.flatten) library.snapshot.playlists :=
    addFirst_addFirst fun _ => rfl
  simp [added, playlists, hplaylists]

/-- Adding nothing changes nothing. -/
theorem added_nil {library : Library} (h : library.IsSynced) (id : String) :
    library.added id [] = library := by
  have hplaylists : addFirst (·.playlist.id == id) [] library.snapshot.playlists =
      library.snapshot.playlists := addFirst_nil h
  simp [added, playlists, hplaylists]

theorem IsSynced.added {library : Library} (h : library.IsSynced) (id : String)
    (pieces : List (List String)) : (library.added id pieces).IsSynced :=
  synced_of_mem_addFirst h

/-- A playlist to which tracks were added has them after its own. -/
theorem tracksAt_added_self {library : Library} {id : String} (hid : id ∈ library.ids)
    (pieces : List (List String)) :
    (library.added id pieces).tracksAt id = library.tracksAt id ++ pieces.flatten := by
  obtain ⟨stored, hstored⟩ := Option.isSome_iff_exists.1 (isSome_find?_iff.2 hid)
  have hfind : (library.added id pieces).find? id = some (stored.withAdded pieces.flatten) := by
    have hself : (addFirst (·.playlist.id == id) pieces.flatten library.playlists).find?
        (·.playlist.id == id) = (library.find? id).map (·.withAdded pieces.flatten) :=
      find?_addFirst_self fun _ => rfl
    rw [hstored] at hself
    exact hself
  simp [tracksAt, hfind, hstored]

/-- The other playlists have the tracks that they had. -/
theorem tracksAt_added_of_ne (library : Library) {id other : String} (hne : other ≠ id)
    (pieces : List (List String)) :
    (library.added id pieces).tracksAt other = library.tracksAt other := by
  have hfind : (library.added id pieces).find? other = library.find? other :=
    find?_addFirst_of_disjoint (fun _ => rfl) fun stored hother => by
      simp_all
  rw [tracksAt, hfind, tracksAt]

/-! ## Creating a playlist -/

@[simp]
theorem playlists_withNew (newId : IdSource) (name : String) (library : Library) :
    (library.withNew newId name).playlists = library.playlists ++
      [{ playlist := newPlaylist (newId library.ids).1 library.snapshot.userId name false }] :=
  rfl

/-- A created playlist is the first of its name if there was none. -/
theorem firstNamed?_withNew {library : Library} {name : String}
    (h : library.firstNamed? name = none) (newId : IdSource) :
    (library.withNew newId name).firstNamed? name = some
      { playlist := newPlaylist (newId library.ids).1 library.snapshot.userId name false } := by
  rw [firstNamed?] at h
  simp [firstNamed?, h, newPlaylist]

/-- The id of a created playlist is new. -/
theorem nodup_ids_create {library : Library} (h : library.ids.Nodup) (newId : IdSource)
    (owner name : String) (isPublic : Bool) (write : Write) :
    (library.create (newPlaylist (newId library.ids).1 owner name isPublic) write).ids.Nodup := by
  have hids : (library.create (newPlaylist (newId library.ids).1 owner name isPublic) write).ids =
      library.ids.concat (newId library.ids).1 := by
    simp [ids, playlists, create, newPlaylist]
  -- An id source never gives an id that is taken.
  rw [hids]
  exact h.concat (newId library.ids).2

theorem nodup_ids_withNew {library : Library} (h : library.ids.Nodup) (newId : IdSource)
    (name : String) : (library.withNew newId name).ids.Nodup :=
  nodup_ids_create h newId _ name false _

theorem IsSynced.withNew {library : Library} (h : library.IsSynced) (newId : IdSource)
    (name : String) : (library.withNew newId name).IsSynced := by
  intro stored hstored
  rw [playlists_withNew, List.mem_append, List.mem_singleton] at hstored
  rcases hstored with hstored | rfl
  · exact h stored hstored
  · rfl

/-- A playlist that is there is found after another one was created. -/
theorem find?_withNew_of_eq_some {library : Library} {id : String} {stored : StoredPlaylist}
    (h : library.find? id = some stored) (newId : IdSource) (name : String) :
    (library.withNew newId name).find? id = some stored := by
  rw [find?] at h
  rw [find?, playlists_withNew, List.find?_append, h, Option.some_or]

/-- A created playlist has no tracks, and the others have the tracks that they had. -/
theorem tracksAt_withNew (library : Library) (newId : IdSource) (name id : String) :
    (library.withNew newId name).tracksAt id = library.tracksAt id := by
  cases hfind : library.find? id with
  | some stored => rw [tracksAt, find?_withNew_of_eq_some hfind, tracksAt, hfind]
  | none =>
    -- Whether the created playlist is found or nothing is, there are no tracks.
    have hbefore : library.tracksAt id = [] := by rw [tracksAt, hfind]; rfl
    rw [find?] at hfind
    rw [hbefore, tracksAt, find?, playlists_withNew, List.find?_append, hfind, Option.none_or,
      List.find?_singleton]
    split <;> rfl

theorem withNamed_of_isSome {library : Library} {name : String}
    (h : (library.firstNamed? name).isSome) (newId : IdSource) :
    library.withNamed newId name = library :=
  if_pos h

theorem withNamed_of_eq_none {library : Library} {name : String}
    (h : library.firstNamed? name = none) (newId : IdSource) :
    library.withNamed newId name = library.withNew newId name := by
  simp [withNamed, h]

/-- Once a playlist of a name was found or created, there is one. -/
theorem isSome_firstNamed?_withNamed (library : Library) (newId : IdSource) (name : String) :
    ((library.withNamed newId name).firstNamed? name).isSome := by
  cases hfind : library.firstNamed? name with
  | some stored => rw [withNamed_of_isSome (by simp [hfind]), hfind, Option.isSome_some]
  | none => rw [withNamed_of_eq_none hfind, firstNamed?_withNew hfind, Option.isSome_some]

/-- The playlists that were there stay in their places when one of a name is found or created. -/
theorem playlists_prefix_withNamed (library : Library) (newId : IdSource) (name : String) :
    library.playlists <+: (library.withNamed newId name).playlists := by
  unfold withNamed
  split
  · exact List.prefix_refl _
  · exact List.prefix_append _ _

theorem nodup_ids_withNamed {library : Library} (h : library.ids.Nodup) (newId : IdSource)
    (name : String) : (library.withNamed newId name).ids.Nodup := by
  unfold withNamed
  split
  · exact h
  · exact nodup_ids_withNew h newId name

@[simp]
theorem tracksAt_withNamed (library : Library) (newId : IdSource) (name id : String) :
    (library.withNamed newId name).tracksAt id = library.tracksAt id := by
  unfold withNamed
  split
  · rfl
  · exact tracksAt_withNew library newId name id

@[simp]
theorem userId_withNamed (library : Library) (newId : IdSource) (name : String) :
    (library.withNamed newId name).snapshot.userId = library.snapshot.userId := by
  unfold withNamed
  split <;> rfl

@[simp]
theorem pageSize_withNamed (library : Library) (newId : IdSource) (name : String) :
    (library.withNamed newId name).pageSize = library.pageSize := by
  unfold withNamed
  split <;> rfl

theorem IsSynced.withNamed {library : Library} (h : library.IsSynced) (newId : IdSource)
    (name : String) : (library.withNamed newId name).IsSynced := by
  unfold Library.withNamed
  split
  · exact h
  · exact h.withNew newId name

/-- Playlists that are picked by something else than the name of a created one are picked as
before. -/
theorem filter_withNamed {library : Library} {name : String} {other : StoredPlaylist → Bool}
    (hdisjoint : ∀ stored, stored.playlist.name = some name → other stored = false)
    (newId : IdSource) :
    (library.withNamed newId name).playlists.filter other = library.playlists.filter other := by
  cases hfind : library.firstNamed? name with
  | some stored => rw [withNamed_of_isSome (by simp [hfind])]
  | none =>
    have hnew : other
        { playlist := newPlaylist (newId library.ids).1 library.snapshot.userId name false } =
          false := hdisjoint _ rfl
    rw [withNamed_of_eq_none hfind, playlists_withNew, List.filter_append]
    simp [hnew]

/-! ## Distinct ids -/

/-- Where ids are distinct, a playlist is found by its id. -/
theorem find?_of_mem {library : Library} (hids : library.ids.Nodup) {stored : StoredPlaylist}
    (hstored : stored ∈ library.playlists) : library.find? stored.playlist.id = some stored := by
  obtain ⟨found, hfound⟩ := Option.isSome_iff_exists.1
    (isSome_find?_iff.2 (List.mem_map.2 ⟨stored, hstored, rfl⟩))
  -- What is found has the same id, so that it is the same playlist.
  have hid : found.playlist.id = stored.playlist.id := by
    simpa using List.find?_some hfound
  have hmem : found ∈ library.playlists := List.mem_of_find?_eq_some hfound
  rw [hfound, List.inj_on_of_nodup_map hids hmem hstored hid]

/-- Where ids are distinct, the tracks at a playlist's id are its own. -/
theorem tracksAt_of_mem {library : Library} (hids : library.ids.Nodup) {stored : StoredPlaylist}
    (hstored : stored ∈ library.playlists) :
    library.tracksAt stored.playlist.id = stored.trackIds := by
  rw [tracksAt, find?_of_mem hids hstored]
  rfl

/-- Where ids are distinct, adding tracks by the id of the first playlist of a name adds them to
this playlist. -/
theorem playlists_added_of_firstNamed? {library : Library} (hids : library.ids.Nodup)
    {name : String} {target : StoredPlaylist} (htarget : library.firstNamed? name = some target)
    (pieces : List (List String)) :
    (library.added target.playlist.id pieces).playlists =
      addFirst (·.playlist.name == some name) pieces.flatten library.playlists := by
  have honly : ∀ candidate ∈ library.playlists,
      (candidate.playlist.id == target.playlist.id) = true → candidate = target := by
    intro candidate hcandidate hid
    exact List.inj_on_of_nodup_map hids hcandidate (List.mem_of_find?_eq_some htarget)
      (by simpa using hid)
  symm
  exact addFirst_congr htarget (beq_self_eq_true target.playlist.id) honly

/-- The library `after` is `library` with a playlist of a name, created if there was none, to the
first of which tracks have been added. -/
structure HasAdded (newId : IdSource) (name : String) (tracks : List String)
    (library after : Library) : Prop where
  /-- The tracks stand as plain items at the end of the first playlist of the name; the other
  playlists are the same. -/
  playlists_eq : after.playlists =
    addFirst (·.playlist.name == some name) tracks (library.withNamed newId name).playlists
  /-- The user stays the same. -/
  userId_eq : after.snapshot.userId = library.snapshot.userId
  /-- The page size stays the same. -/
  pageSize_eq : after.pageSize = library.pageSize

/-- Where ids are distinct, adding pieces by the id of the first playlist of a name, which may have
been created, adds them to this playlist. -/
theorem hasAdded_added {library : Library} (hids : library.ids.Nodup) {newId : IdSource}
    {name : String} {target : StoredPlaylist}
    (htarget : (library.withNamed newId name).firstNamed? name = some target)
    (pieces : List (List String)) :
    library.HasAdded newId name pieces.flatten
      ((library.withNamed newId name).added target.playlist.id pieces) where
  playlists_eq :=
    playlists_added_of_firstNamed? (nodup_ids_withNamed hids newId name) htarget pieces
  userId_eq := userId_withNamed library newId name
  pageSize_eq := pageSize_withNamed library newId name

section HasAdded

variable {library after : Library} {newId : IdSource} {name : String} {tracks : List String}

/-- The first playlist of the name is the one that had it before, with the tracks that have been
added to it. -/
theorem HasAdded.firstNamed?_eq (h : library.HasAdded newId name tracks after) :
    after.firstNamed? name =
      ((library.withNamed newId name).firstNamed? name).map (·.withAdded tracks) := by
  rw [firstNamed?, h.playlists_eq]
  exact find?_addFirst_self fun _ => rfl

/-- If there is a playlist of the name, the first of them stands in its place with the added tracks;
the other playlists are the same. -/
theorem HasAdded.playlists_eq_replace {target : StoredPlaylist}
    (h : library.HasAdded newId name tracks after)
    (htarget : library.firstNamed? name = some target) :
    after.playlists = library.playlists.replace target (target.withAdded tracks) := by
  rw [h.playlists_eq, withNamed_of_isSome (by simp [htarget])]
  exact addFirst_eq_replace htarget

/-- If there is no playlist of the name, a created one stands last with the added tracks. -/
theorem HasAdded.playlists_eq_append (h : library.HasAdded newId name tracks after)
    (hnone : library.firstNamed? name = none) :
    after.playlists = library.playlists ++
      [StoredPlaylist.withAdded
        { playlist := newPlaylist (newId library.ids).1 library.snapshot.userId name false }
        tracks] := by
  rw [h.playlists_eq, withNamed_of_eq_none hnone, playlists_withNew]
  refine addFirst_append_cons ?_ (beq_self_eq_true (some name))
  simpa using List.find?_eq_none.1 hnone

/-- After tracks were added to the first playlist of a name, there is no need to create one. -/
theorem HasAdded.withNamed_eq (h : library.HasAdded newId name tracks after) (nextId : IdSource) :
    after.withNamed nextId name = after := by
  refine withNamed_of_isSome ?_ nextId
  rw [h.firstNamed?_eq, Option.isSome_map]
  exact isSome_firstNamed?_withNamed library newId name

/-- Tracks can be added to the first playlist of a name in two steps. -/
theorem HasAdded.trans {middle : Library} {nextId : IdSource} {more : List String}
    (h : library.HasAdded newId name tracks middle) (hmore : middle.HasAdded nextId name more after) :
    library.HasAdded newId name (tracks ++ more) after where
  playlists_eq := by
    rw [hmore.playlists_eq, h.withNamed_eq, h.playlists_eq]
    exact addFirst_addFirst fun _ => rfl
  userId_eq := hmore.userId_eq.trans h.userId_eq
  pageSize_eq := hmore.pageSize_eq.trans h.pageSize_eq

/-- Playlists that are picked by something else than the name are the same as before. -/
theorem HasAdded.filter_eq (h : library.HasAdded newId name tracks after)
    {other : StoredPlaylist → Bool}
    (hother : ∀ stored, other (stored.withAdded tracks) = other stored)
    (hdisjoint : ∀ stored, stored.playlist.name = some name → other stored = false) :
    after.playlists.filter other = library.playlists.filter other := by
  rw [h.playlists_eq, ← filter_withNamed hdisjoint newId]
  refine filter_addFirst_of_disjoint hother fun stored hpicked => beq_eq_false_iff_ne.2 ?_
  intro hname
  simp [hdisjoint stored hname] at hpicked

theorem HasAdded.ids_eq (h : library.HasAdded newId name tracks after) :
    after.ids = (library.withNamed newId name).ids := by
  rw [ids, h.playlists_eq]
  exact map_addFirst fun _ => rfl

/-- The ids that were there stay in their places. -/
theorem HasAdded.ids_prefix (h : library.HasAdded newId name tracks after) :
    library.ids <+: after.ids := by
  rw [h.ids_eq]
  exact (library.playlists_prefix_withNamed newId name).map _

theorem HasAdded.nodup_ids (h : library.HasAdded newId name tracks after)
    (hids : library.ids.Nodup) : after.ids.Nodup := by
  rw [h.ids_eq]
  exact nodup_ids_withNamed hids newId name

end HasAdded

end Library

end PlaylistCurator
