import PlaylistCurator.Catalog.Snapshot
import PlaylistCurator.Proofs.Json.RoundTrip

/-!
# The text of a snapshot

A snapshot is read back from its text, whatever it holds: each record that it is made of is read
back from its fields, an absent option from null, and a stored playlist, which is kept while it is
read, from an object in which nothing is too large or too deep.

* `Json.Fields.exists_ofJson?`: the fields of a written record;
* `Snapshot.parse_render`: a snapshot is read back from its text.
-/

namespace PlaylistCurator

namespace Json

/-! ## Fields -/

theorem mapM_textOf?_unitsOf (members : List (String × Json)) :
    (members.map fun member => (unitsOf member.1, member.2)).mapM
        (fun member => (textOf? member.1).map (·, member.2)) = some members := by
  induction members with
  | nil => rfl
  | cons member rest ih =>
    rw [List.map_cons, List.mapM_cons, ih]
    simp

/-- A record that is written with just its fields, each once, gives these fields. -/
theorem Fields.exists_ofMembers? {names : List String} {members : List (String × Json)}
    (hnames : ∀ name ∈ members.map (·.1), name ∈ names) (hnodup : (members.map (·.1)).Nodup) :
    ∃ fields, Fields.ofMembers? names
        (members.map fun member => (unitsOf member.1, member.2)) = some fields ∧
      ∀ {name value}, members.lookup name = some value → fields.get? name = some value := by
  -- No member is left out as unknown, and none is refused as a repetition.
  have hfilter : members.filter (names.contains ·.1) = members := by
    refine List.filter_eq_self.2 fun member hmember => ?_
    simpa using hnames member.1 (List.mem_map_of_mem hmember)
  refine ⟨⟨members⟩, ?_, id⟩
  rw [ofMembers?, mapM_textOf?_unitsOf]
  simp only [Option.bind_eq_bind, Option.bind_some, hfilter, hnodup, ↓reduceIte]

theorem Fields.exists_ofJson? {names : List String} {members : List (String × Json)}
    (hnames : ∀ name ∈ members.map (·.1), name ∈ names) (hnodup : (members.map (·.1)).Nodup) :
    ∃ fields, Fields.ofJson? names (ofMembers members) = some fields ∧
      ∀ {name value}, members.lookup name = some value → fields.get? name = some value :=
  exists_ofMembers? hnames hnodup

theorem Fields.required_of_get? {α : Type} {fields : Fields} {name : String} {json : Json}
    {read : Json → Option α} {value : α} (hget : fields.get? name = some json)
    (hread : read json = some value) : fields.required name read = some value := by
  rw [required_of_get?_eq hget, hread]

theorem Fields.withDefault_of_get? {α : Type} {fields : Fields} {name : String} {json : Json}
    {read : Json → Option α} {default value : α} (hget : fields.get? name = some json)
    (hread : read json = some value) : fields.withDefault name default read = some value := by
  rw [withDefault_of_get?_eq hget, hread]

/-- A field that may be left out is read back from what is written for it. -/
theorem Fields.optional_of_get? {α : Type} {fields : Fields} {name : String}
    {write : α → Json} {read : Json → Option α} {value : Option α}
    (hread : ∀ a, read (write a) = some a) (hnull : ∀ a, write a ≠ .null)
    (hget : fields.get? name = some (ofOption write value)) :
    fields.optional name read = some value := by
  cases value with
  | none =>
    rw [optional, hget]
    rfl
  | some a =>
    -- The only text that could be taken for an absent value is null.
    rw [optional_of_get?_eq hget (hnull a), ofOption, hread]
    rfl

theorem list?_array {α : Type} {write : α → Json} {read : Json → Option α}
    (hread : ∀ a, read (write a) = some a) (values : List α) :
    list? read (.array (values.map write)) = some values := by
  rw [list?]
  induction values with
  | nil => rfl
  | cons value rest ih =>
    rw [List.map_cons, List.mapM_cons, hread, ih]
    rfl

end Json

open Json

/-! ## Records -/

theorem Json.ofText_ne_null (text : String) : ofText text ≠ .null := nofun

theorem Track.toJson_ne_null (track : Track) : track.toJson ≠ .null := nofun

theorem Owner.ofJson?_toJson (owner : Owner) : ofJson? owner.toJson = some owner := by
  obtain ⟨fields, hfields, hget⟩ : ∃ fields,
      Fields.ofJson? ["id", "display_name"] owner.toJson = some fields ∧ _ :=
    Fields.exists_ofJson? (by simp) (by simp)
  have hid : fields.required "id" text? = some owner.id :=
    Fields.required_of_get? (hget rfl) (text?_ofText owner.id)
  have hname : fields.optional "display_name" text? = some owner.displayName :=
    Fields.optional_of_get? text?_ofText ofText_ne_null (hget rfl)
  simp [ofJson?, hfields, hid, hname]

theorem TrackCount.ofJson?_toJson (count : TrackCount) : ofJson? count.toJson = some count := by
  obtain ⟨fields, hfields, hget⟩ : ∃ fields,
      Fields.ofJson? ["total"] count.toJson = some fields ∧ _ :=
    Fields.exists_ofJson? (by simp) (by simp)
  have htotal : fields.required "total" (natBelow? UInt32.size) = some count.total.toNat :=
    Fields.required_of_get? (hget rfl) (natBelow?_ofNat count.total.toNat_lt)
  simp [ofJson?, hfields, htotal]

theorem Track.ofJson?_toJson (track : Track) : ofJson? track.toJson = some track := by
  obtain ⟨fields, hfields, hget⟩ : ∃ fields,
      Fields.ofJson? ["id", "name"] track.toJson = some fields ∧ _ :=
    Fields.exists_ofJson? (by simp) (by simp)
  have hid : fields.optional "id" text? = some track.id :=
    Fields.optional_of_get? text?_ofText ofText_ne_null (hget rfl)
  have hname : fields.optional "name" text? = some track.name :=
    Fields.optional_of_get? text?_ofText ofText_ne_null (hget rfl)
  simp [ofJson?, hfields, hid, hname]

theorem Item.ofJson?_toJson (item : Item) : ofJson? item.toJson = some item := by
  obtain ⟨fields, hfields, hget⟩ : ∃ fields,
      Fields.ofJson? ["added_at", "track"] item.toJson = some fields ∧ _ :=
    Fields.exists_ofJson? (by simp) (by simp)
  have hadded : fields.optional "added_at" text? = some item.addedAt :=
    Fields.optional_of_get? text?_ofText ofText_ne_null (hget rfl)
  have htrack : fields.optional "track" Track.ofJson? = some item.track :=
    Fields.optional_of_get? Track.ofJson?_toJson Track.toJson_ne_null (hget rfl)
  simp [ofJson?, hfields, hadded, htrack]

/-- A listed playlist is read from fields that hold what is written for it. -/
theorem Playlist.ofFields?_of_get? {fields : Fields} {playlist : Playlist}
    (hget : ∀ {name value}, playlist.members.lookup name = some value →
      fields.get? name = some value) :
    ofFields? fields = some playlist := by
  have hid : fields.required "id" text? = some playlist.id :=
    Fields.required_of_get? (hget rfl) (text?_ofText playlist.id)
  have hname : fields.optional "name" text? = some playlist.name :=
    Fields.optional_of_get? text?_ofText ofText_ne_null (hget rfl)
  have hdescription : fields.optional "description" text? = some playlist.description :=
    Fields.optional_of_get? text?_ofText ofText_ne_null (hget rfl)
  have howner : fields.required "owner" Owner.ofJson? = some playlist.owner :=
    Fields.required_of_get? (hget rfl) playlist.owner.ofJson?_toJson
  have htracks : fields.withDefault "tracks" {} TrackCount.ofJson? = some playlist.tracks :=
    Fields.withDefault_of_get? (hget rfl) playlist.tracks.ofJson?_toJson
  have hpublic : fields.optional "public" bool? = some playlist.isPublic :=
    Fields.optional_of_get? (fun value => show bool? (.bool value) = some value from rfl)
      (fun _ => nofun) (hget rfl)
  simp [ofFields?, hid, hname, hdescription, howner, htracks, hpublic]

/-! ## What is kept of a stored playlist -/

/-- Digits whose number fits a 64-bit word fill it with nothing left over. -/
theorem Json.Number.fillWord_of_lt {digits : List Char} {word : Nat}
    (h : Nat.ofDigitChars 10 digits word < UInt64.size) :
    fillWord word digits = (Nat.ofDigitChars 10 digits word, 0) := by
  induction digits generalizing word with
  | nil => rfl
  | cons digit rest ih =>
    rw [Nat.ofDigitChars_cons] at h ⊢
    -- Further digits only make the number larger.
    have hfits : 10 * word + (digit.toNat - '0'.toNat) < UInt64.size := by
      refine Nat.lt_of_le_of_lt ?_ h
      rw [Nat.ofDigitChars_eq_ofDigitChars_zero]
      exact Nat.le_trans (Nat.le_mul_of_pos_left _ (Nat.pow_pos (by decide)))
        (Nat.le_add_right _ _)
    rw [fillWord]
    simp only [hfits, ↓reduceIte, ih h]

/-- A track count is a finite number. -/
theorem Json.Number.isFinite_ofNat {n : Nat} (h : n < UInt32.size) :
    (ofNat n).isFinite = true := by
  have hdigits : Nat.ofDigitChars 10 (Nat.toDigits 10 n) 0 = n :=
    Nat.ofDigitChars_toDigits (by decide) (by decide)
  have hword : fillWord 0 (Nat.toDigits 10 n) = (n, 0) := by
    have hlt : Nat.ofDigitChars 10 (Nat.toDigits 10 n) 0 < UInt64.size := by
      rw [hdigits]
      exact Nat.lt_trans h (by decide)
    rw [fillWord_of_lt hlt, hdigits]
  have hround : Decimal.roundToDouble n = n :=
    Decimal.roundToDouble_of_lt (Nat.lt_trans h (by decide))
  have hone : Decimal.roundToDouble 1 = 1 := by decide
  have hbound : n < Decimal.overflowBound := Nat.lt_trans h (by decide +kernel)
  simp [isFinite, ofNat, hword, fillWord, Decimal.productIsFinite, hround, hone, hbound]

theorem Json.isStorable_ofText (room : Nat) (text : String) :
    (ofText text).isStorable room = true := by
  simp [ofText, isStorable]

theorem Json.isStorable_ofOption {α : Type} {write : α → Json} {room : Nat}
    (h : ∀ value, (write value).isStorable room = true) (value : Option α) :
    (ofOption write value).isStorable room = true := by
  cases value with
  | none => simp [ofOption, isStorable]
  | some value => exact h value

/-- What is written for a playlist is small and shallow enough to be kept while it is read. -/
theorem Playlist.membersAreStorable_members (playlist : Playlist) :
    membersAreStorable 124 (playlist.members.map fun member => (unitsOf member.1, member.2)) =
      true := by
  have htotal : (TrackCount.toJson playlist.tracks).isStorable 124 = true := by
    simp [TrackCount.toJson, ofMembers, isStorable, membersAreStorable, Json.ofNat,
      Number.isFinite_ofNat playlist.tracks.total.toNat_lt]
  have howner : (Owner.toJson playlist.owner).isStorable 124 = true := by
    simp [Owner.toJson, ofMembers, isStorable, membersAreStorable, isStorable_ofText,
      isStorable_ofOption (isStorable_ofText _)]
  have hpublic : (ofOption Json.bool playlist.isPublic).isStorable 124 = true :=
    isStorable_ofOption (fun _ => by simp [isStorable]) _
  simp [members, membersAreStorable, isStorable_ofText, isStorable_ofOption (isStorable_ofText _),
    htotal, howner, hpublic]

/-- The members of a stored playlist. -/
def StoredPlaylist.members (stored : StoredPlaylist) : List (String × Json) :=
  stored.playlist.members ++ [("items", .array (stored.items.map Item.toJson))]

theorem StoredPlaylist.ofJson?_toJson (stored : StoredPlaylist) :
    ofJson? 2 stored.toJson = some stored := by
  -- The fields of the playlist and its items stand side by side in one object.
  obtain ⟨fields, hfields, hget⟩ : ∃ fields, Fields.ofMembers? ("items" :: Playlist.keys)
      (stored.members.map fun member => (unitsOf member.1, member.2)) = some fields ∧ _ :=
    Fields.exists_ofMembers? (by simp [members, Playlist.members, Playlist.keys])
      (by simp [members, Playlist.members])
  have hplaylist : Playlist.ofFields? fields = some stored.playlist := by
    refine Playlist.ofFields?_of_get? fun hlookup => hget ?_
    rw [members, List.lookup_append, hlookup]
    rfl
  have hitems : fields.withDefault "items" [] (list? Item.ofJson?) = some stored.items :=
    Fields.withDefault_of_get? (hget rfl) (list?_array Item.ofJson?_toJson stored.items)
  -- All members but the items are kept.
  have hkept : (stored.members.map fun member => (unitsOf member.1, member.2)).filter
      (textOf? ·.1 != some "items") =
        stored.playlist.members.map fun member => (unitsOf member.1, member.2) := by
    simp [members, Playlist.members]
  have hjson : stored.toJson =
      .object (stored.members.map fun member => (unitsOf member.1, member.2)) := rfl
  rw [hjson]
  simp only [ofJson?, hfields, hkept]
  simp [nestingLimit, stored.playlist.membersAreStorable_members, hplaylist, hitems]

theorem Snapshot.ofJson?_toJson (snapshot : Snapshot) :
    ofJson? snapshot.toJson = some snapshot := by
  obtain ⟨fields, hfields, hget⟩ : ∃ fields,
      Fields.ofJson? ["user_id", "playlists"] snapshot.toJson = some fields ∧ _ :=
    Fields.exists_ofJson? (by simp) (by simp)
  have huser : fields.required "user_id" text? = some snapshot.userId :=
    Fields.required_of_get? (hget rfl) (text?_ofText snapshot.userId)
  have hplaylists : fields.withDefault "playlists" [] (list? (StoredPlaylist.ofJson? 2)) =
      some snapshot.playlists :=
    Fields.withDefault_of_get? (hget rfl)
      (list?_array StoredPlaylist.ofJson?_toJson snapshot.playlists)
  simp [ofJson?, hfields, huser, hplaylists]

/-! ## The text -/

theorem Track.isPlain_toJson (track : Track) : track.toJson.IsPlain :=
  isPlain_ofMembers (by simp [isPlain_ofOption isPlain_ofText])

theorem Item.isPlain_toJson (item : Item) : item.toJson.IsPlain :=
  isPlain_ofMembers (by
    simp [isPlain_ofOption isPlain_ofText, isPlain_ofOption Track.isPlain_toJson])

theorem Owner.isPlain_toJson (owner : Owner) : owner.toJson.IsPlain :=
  isPlain_ofMembers (by simp [isPlain_ofText, isPlain_ofOption isPlain_ofText])

theorem TrackCount.isPlain_toJson (count : TrackCount) : count.toJson.IsPlain :=
  isPlain_ofMembers (by simp [isPlain_ofNat])

theorem StoredPlaylist.isPlain_toJson (stored : StoredPlaylist) : stored.toJson.IsPlain := by
  have hitems : (Json.array (stored.items.map Item.toJson)).IsPlain :=
    isPlain_array (by simp [Item.isPlain_toJson])
  have hpublic : (ofOption Json.bool stored.playlist.isPublic).IsPlain :=
    isPlain_ofOption (fun _ => by simp [IsPlain]) _
  refine isPlain_ofMembers ?_
  simp [Playlist.members, isPlain_ofText, isPlain_ofOption isPlain_ofText, Owner.isPlain_toJson,
    TrackCount.isPlain_toJson, hpublic, hitems]

theorem Snapshot.isPlain_toJson (snapshot : Snapshot) : snapshot.toJson.IsPlain := by
  have hplaylists : (Json.array (snapshot.playlists.map StoredPlaylist.toJson)).IsPlain :=
    isPlain_array (by simp [StoredPlaylist.isPlain_toJson])
  exact isPlain_ofMembers (by simp [isPlain_ofText, hplaylists])

/-- A snapshot is read back from its text. -/
theorem Snapshot.parse_render (snapshot : Snapshot) : parse snapshot.render = some snapshot := by
  rw [parse, render, Json.parse_pretty snapshot.isPlain_toJson]
  exact snapshot.ofJson?_toJson

end PlaylistCurator
