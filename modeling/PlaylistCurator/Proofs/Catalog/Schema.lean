import PlaylistCurator.Catalog.Snapshot
import PlaylistCurator.Proofs.Json.FieldChanges

/-!
# Records that are read from JSON

The kinds of records that are read, and how they stand inside each other. Each of them is built from
its fields, and of a field that holds records nothing counts but what these are read as. So when the
value of such a field is exchanged, the whole is read as before if the field is. In a stored
playlist all but the items must besides be such that it can still be kept.

* `Schema.exists_buildsBy`: records are built from their fields;
* `Schema.read_object_exchange`, `Schema.read_array_exchange`: a record of which a field is
  exchanged.
-/

namespace PlaylistCurator

open Json

/-- What a JSON value is read as: a record, or a list. -/
inductive Schema
  | owner
  | trackCount
  | track
  | item
  | page
  | playlist
  /-- A stored playlist inside `depth` lists and objects. -/
  | stored (depth : Nat)
  | snapshot
  | list (of : Schema)

namespace Schema

/-- What is read. -/
def Result : Schema → Type
  | .owner => Owner
  | .trackCount => TrackCount
  | .track => Track
  | .item => Item
  | .page => Page Item
  | .playlist => Playlist
  | .stored _ => StoredPlaylist
  | .snapshot => Snapshot
  | .list of => List of.Result

/-- Reads a value. -/
def read : (schema : Schema) → Json → Option schema.Result
  | .owner => Owner.ofJson?
  | .trackCount => TrackCount.ofJson?
  | .track => Track.ofJson?
  | .item => Item.ofJson?
  | .page => Page.ofJson?
  | .playlist => Playlist.ofJson?
  | .stored depth => StoredPlaylist.ofJson? depth
  | .snapshot => Snapshot.ofJson?
  | .list of => list? of.read

/-- Reads a text. -/
def parse (schema : Schema) (text : String) : Option schema.Result :=
  (Json.parse text).bind schema.read

/-- The names of the fields. -/
def keys : Schema → List String
  | .owner => ["id", "display_name"]
  | .trackCount => ["total"]
  | .track => ["id", "name"]
  | .item => ["added_at", "track"]
  | .page => ["items", "offset", "next"]
  | .playlist => Playlist.keys
  | .stored _ => "items" :: Playlist.keys
  | .snapshot => ["user_id", "playlists"]
  | .list _ => []

theorem nodup_keys (schema : Schema) : schema.keys.Nodup := by
  cases schema <;> simp [keys, Playlist.keys]

/-- The fields that hold records, or lists of them. -/
inductive Holds : Schema → String → Schema → Prop
  | track : Holds .item "track" .track
  | pageItems : Holds .page "items" (.list .item)
  | owner : Holds .playlist "owner" .owner
  | tracks : Holds .playlist "tracks" .trackCount
  | storedOwner {depth : Nat} : Holds (.stored depth) "owner" .owner
  | storedTracks {depth : Nat} : Holds (.stored depth) "tracks" .trackCount
  | storedItems {depth : Nat} : Holds (.stored depth) "items" (.list .item)
  | playlists : Holds .snapshot "playlists" (.list (.stored 2))

theorem Holds.mem_keys {schema part : Schema} {name : String} (h : schema.Holds name part) :
    name ∈ schema.keys := by
  cases h <;> simp [keys, Playlist.keys]

/-! ## What is kept -/

/-- How deep the members of an object may nest where they are kept while it is read. -/
def room? : Schema → Option Nat
  | .stored depth => some (StoredPlaylist.nestingLimit - depth - 1)
  | _ => none

/-- Whether everything can be kept that is kept of the members of an object while it is read. -/
def areKept (schema : Schema) (members : List (List StringUnit × Json)) : Bool :=
  schema.room?.all fun room =>
    membersAreStorable room (members.filter (textOf? ·.1 != some "items"))

section

variable {schema : Schema} {units : List StringUnit} {value : Json}

/-- The items of a stored playlist are not kept. -/
theorem areKept_items (hunits : textOf? units = some "items")
    (before after : List (List StringUnit × Json)) :
    schema.areKept (before ++ (units, value) :: after) = schema.areKept (before ++ after) := by
  simp [areKept, hunits]

/-- Any other member is kept. -/
theorem areKept_insert (hunits : textOf? units ≠ some "items")
    (before after : List (List StringUnit × Json)) :
    schema.areKept (before ++ (units, value) :: after) =
      (schema.areKept (before ++ after) &&
        schema.room?.all fun room => (textOf? units).isSome && value.isStorable room) := by
  cases hroom : schema.room? with
  | none => simp [areKept, hroom]
  | some room =>
    have hbne : (textOf? units != some "items") = true := bne_iff_ne.2 hunits
    simp only [areKept, hroom, Option.all_some, List.filter_append, List.filter_cons, hbne,
      ↓reduceIte, membersAreStorable_insert]

/-- Only stored playlists are kept, and they have items. -/
theorem items_mem_keys {outer : Nat} (hroom : schema.room? = some outer) :
    "items" ∈ schema.keys := by
  cases schema <;> first | exact List.mem_cons_self | cases hroom

/-- What is kept is given by an object. -/
theorem read_array_of_room? {outer : Nat} (hroom : schema.room? = some outer) (items : List Json) :
    schema.read (.array items) = none := by
  cases schema <;> first | rfl | cases hroom

end

/-! ## Building records -/

/-- The fields that a value gives for a record. -/
def fields? (schema : Schema) : Json → Option Fields
  | .object members =>
    if schema.areKept members then Fields.ofMembers? schema.keys members else none
  | .array items =>
    if schema.room?.isNone then Fields.ofJson? schema.keys (.array items) else none
  | _ => none

/-- Where nothing is kept, the fields are just those of the record. -/
theorem fields?_of_room? {schema : Schema} (hroom : schema.room? = none) (value : Json) :
    schema.fields? value = Fields.ofJson? schema.keys value := by
  cases value <;> simp [fields?, areKept, hroom, Fields.ofJson?]

/-- A record is built from its fields, and those that hold records only count as what these are read
as. -/
structure BuildsBy (schema : Schema) (build : Fields → Option schema.Result) : Prop where
  /-- What is read of a value is built from the fields that it gives. -/
  read_eq : ∀ value, schema.read value = (schema.fields? value).bind build
  /-- Fields that hold records are read as these. -/
  part : ∀ {name : String} {part : Schema}, schema.Holds name part →
    Fields.ReadsPart build name part.read

theorem BuildsBy.of_ofJson? {schema : Schema} {build : Fields → Option schema.Result}
    (hroom : schema.room? = none)
    (hread : ∀ value, schema.read value = (Fields.ofJson? schema.keys value).bind build)
    (hpart : ∀ {name : String} {part : Schema}, schema.Holds name part →
      Fields.ReadsPart build name part.read) : schema.BuildsBy build :=
  ⟨fun value => by rw [fields?_of_room? hroom, hread], hpart⟩

end Schema

theorem Item.exists_build : ∃ build : Fields → Option Item,
    (∀ value, ofJson? value = (Fields.ofJson? ["added_at", "track"] value).bind build) ∧
      Fields.ReadsPart build "track" Track.ofJson? := by
  refine ⟨_, fun _ => rfl, ?_, ?_⟩
  · intro value value' fields fields' h hvalue hvalue' hread
    simp (disch := decide) only [h.optional_other,
      Fields.optional_of_get?_eq h.get?_after hvalue',
      Fields.optional_of_get?_eq h.get?_before hvalue, hread]
  · intro value fields h hvalue hread
    simp [Fields.optional_of_get?_eq h hvalue, hread]

theorem Page.exists_build : ∃ build : Fields → Option (Page Item),
    (∀ value, ofJson? value = (Fields.ofJson? ["items", "offset", "next"] value).bind build) ∧
      Fields.ReadsPart build "items" (list? Item.ofJson?) := by
  refine ⟨_, fun _ => rfl, ?_, ?_⟩
  · intro value value' fields fields' h _ _ hread
    simp (disch := decide) only [h.withDefault_other, h.optional_other,
      Fields.required_of_get?_eq h.get?_after, Fields.required_of_get?_eq h.get?_before, hread]
  · intro value fields h _ hread
    simp [Fields.required_of_get?_eq h, hread]

theorem Snapshot.exists_build : ∃ build : Fields → Option Snapshot,
    (∀ value, ofJson? value = (Fields.ofJson? ["user_id", "playlists"] value).bind build) ∧
      Fields.ReadsPart build "playlists" (list? (StoredPlaylist.ofJson? 2)) := by
  refine ⟨_, fun _ => rfl, ?_, ?_⟩
  · intro value value' fields fields' h _ _ hread
    simp (disch := decide) only [h.required_other, Fields.withDefault_of_get?_eq h.get?_after,
      Fields.withDefault_of_get?_eq h.get?_before, hread]
  · intro value fields h _ hread
    simp [Fields.withDefault_of_get?_eq h, hread]

theorem Playlist.readsPart_owner : Fields.ReadsPart ofFields? "owner" Owner.ofJson? := by
  constructor
  · intro value value' fields fields' h _ _ hread
    simp (disch := decide) only [ofFields?, h.required_other, h.optional_other,
      h.withDefault_other, Fields.required_of_get?_eq h.get?_after,
      Fields.required_of_get?_eq h.get?_before, hread]
  · intro value fields h _ hread
    simp [ofFields?, Fields.required_of_get?_eq h, hread]

theorem Playlist.readsPart_tracks : Fields.ReadsPart ofFields? "tracks" TrackCount.ofJson? := by
  constructor
  · intro value value' fields fields' h _ _ hread
    simp (disch := decide) only [ofFields?, h.required_other, h.optional_other,
      Fields.withDefault_of_get?_eq h.get?_after, Fields.withDefault_of_get?_eq h.get?_before,
      hread]
  · intro value fields h _ hread
    simp [ofFields?, Fields.withDefault_of_get?_eq h, hread]

namespace StoredPlaylist

/-- Builds a stored playlist from its fields. -/
def ofFields? (fields : Fields) : Option StoredPlaylist := do
  return {
    playlist := ← Playlist.ofFields? fields
    items := ← fields.withDefault "items" [] (list? Item.ofJson?) }

/-- A stored playlist is built from its fields if the rest can be kept. -/
theorem ofJson?_object (depth : Nat) (members : List (List StringUnit × Json)) :
    ofJson? depth (.object members) =
      (if membersAreStorable (nestingLimit - depth - 1)
          (members.filter (textOf? ·.1 != some "items")) then
        Fields.ofMembers? ("items" :: Playlist.keys) members
      else none).bind ofFields? := by
  rw [ofJson?]
  cases Fields.ofMembers? ("items" :: Playlist.keys) members with
  | none => simp
  | some fields =>
    split_ifs with hkept
    · simp [hkept, ofFields?]
    · simp [hkept]

/-- The fields of the playlist in a stored playlist are read as those of any other one. -/
theorem readsPart_of_playlist {β : Type} {name : String} {read : Json → Option β}
    (hname : "items" ≠ name) (h : Fields.ReadsPart Playlist.ofFields? name read) :
    Fields.ReadsPart ofFields? name read := by
  constructor
  · intro value value' fields fields' hchanges hvalue hvalue' hread
    simp only [ofFields?, h.congr hchanges hvalue hvalue' hread, hchanges.withDefault_other hname]
  · intro value fields hget hvalue hread
    simp [ofFields?, h.eq_none hget hvalue hread]

theorem readsPart_items : Fields.ReadsPart ofFields? "items" (list? Item.ofJson?) := by
  constructor
  · intro value value' fields fields' h _ _ hread
    simp (disch := decide) only [ofFields?, Playlist.ofFields?, h.required_other,
      h.optional_other, h.withDefault_other, Fields.withDefault_of_get?_eq h.get?_after,
      Fields.withDefault_of_get?_eq h.get?_before, hread]
  · intro value fields h _ hread
    simp [ofFields?, Fields.withDefault_of_get?_eq h, hread]

end StoredPlaylist

namespace Schema

/-- Every record is built from its fields. -/
theorem exists_buildsBy (schema : Schema) :
    (∃ of, schema = .list of) ∨ ∃ build, schema.BuildsBy build := by
  cases schema with
  | owner => exact .inr ⟨_, .of_ofJson? rfl (fun _ => rfl) nofun⟩
  | trackCount => exact .inr ⟨_, .of_ofJson? rfl (fun _ => rfl) nofun⟩
  | track => exact .inr ⟨_, .of_ofJson? rfl (fun _ => rfl) nofun⟩
  | item =>
    obtain ⟨build, hread, htrack⟩ := Item.exists_build
    exact .inr ⟨build, .of_ofJson? rfl hread (by rintro _ _ ⟨⟩; exact htrack)⟩
  | page =>
    obtain ⟨build, hread, hitems⟩ := Page.exists_build
    exact .inr ⟨build, .of_ofJson? rfl hread (by rintro _ _ ⟨⟩; exact hitems)⟩
  | playlist =>
    refine .inr ⟨Playlist.ofFields?, .of_ofJson? rfl (fun _ => rfl) ?_⟩
    rintro _ _ (_ | _)
    · exact Playlist.readsPart_owner
    · exact Playlist.readsPart_tracks
  | stored depth =>
    refine .inr ⟨StoredPlaylist.ofFields?, ?_, ?_⟩
    · intro value
      cases value with
      | object members => exact StoredPlaylist.ofJson?_object depth members
      | _ => rfl
    · rintro _ _ (_ | _)
      · exact StoredPlaylist.readsPart_of_playlist (by decide) Playlist.readsPart_owner
      · exact StoredPlaylist.readsPart_of_playlist (by decide) Playlist.readsPart_tracks
      · exact StoredPlaylist.readsPart_items
  | snapshot =>
    obtain ⟨build, hread, hplaylists⟩ := Snapshot.exists_build
    exact .inr ⟨build, .of_ofJson? rfl hread (by rintro _ _ ⟨⟩; exact hplaylists)⟩
  | list of => exact .inl ⟨of, rfl⟩

theorem Holds.exists_buildsBy {schema part : Schema} {name : String} (h : schema.Holds name part) :
    ∃ build, schema.BuildsBy build := by
  refine schema.exists_buildsBy.resolve_left ?_
  rintro ⟨of, rfl⟩
  cases h

/-! ## Exchanging a field -/

section

variable {schema part : Schema} {name : String} {value value' : Json} {reads : Bool}

/-- An object for a record, in which a field is still read as before or not at all, and the rest can
still be kept or cannot. -/
theorem read_object_exchange {units : List StringUnit} {kept : Bool}
    {before after : List (List StringUnit × Json)} (hpart : schema.Holds name part)
    (hunits : textOf? units = some name) (hvalue : value ≠ .null) (hvalue' : value' ≠ .null)
    (hread : part.read value' = if reads then part.read value else none)
    (hkept : schema.areKept (before ++ (units, value') :: after) =
      (schema.areKept (before ++ (units, value) :: after) && kept)) :
    schema.read (.object (before ++ (units, value') :: after)) =
      if reads && kept then schema.read (.object (before ++ (units, value) :: after))
      else none := by
  obtain ⟨build, hbuild⟩ := hpart.exists_buildsBy
  have hrel := Fields.rel_ofMembers? hunits hpart.mem_keys value value' before after
  have hbind := (hbuild.part hpart).bind_eq hrel hvalue hvalue' hread
  simp only [hbuild.read_eq, fields?, hkept]
  cases schema.areKept (before ++ (units, value) :: after) <;> cases kept <;> simp [hbind]

/-- A list for a record, in which a field is still read as before or not at all. -/
theorem read_array_exchange {before : List Json} (hpart : schema.Holds name part)
    (hname : schema.keys[before.length]? = some name) (after : List Json)
    (hvalue : value ≠ .null) (hvalue' : value' ≠ .null)
    (hread : part.read value' = if reads then part.read value else none) :
    schema.read (.array (before ++ value' :: after)) =
      if reads then schema.read (.array (before ++ value :: after)) else none := by
  obtain ⟨build, hbuild⟩ := hpart.exists_buildsBy
  have hrel := Fields.rel_ofJson?_array schema.nodup_keys hname value value' after
  have hbind := (hbuild.part hpart).bind_eq hrel hvalue hvalue' hread
  simp only [hbuild.read_eq, fields?]
  cases schema.room?.isNone <;> simp [hbind]

end

end Schema

end PlaylistCurator
