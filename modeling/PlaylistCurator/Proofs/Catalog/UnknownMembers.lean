import PlaylistCurator.Proofs.Catalog.Schema
import PlaylistCurator.Proofs.Json.Splicing

/-!
# Unknown members

What is read of a text for a record into which a member has been put that names no field: into the
object of the record itself, or into that of another record inside it (`Schema.Inserts`).

The member is passed over if its key is a text. But all that is in a stored playlist, except for its
items, is kept while it is read, unknown members with the others; so there the value of the member
must be such that it can be kept, or else the whole text is refused.

* `Schema.read_inserts`: what is read of the value;
* `Schema.parse_insertion`: what is read of the text;
* `Schema.exists_insertion`: a member can be put into a text wherever it can into the value.
-/

namespace PlaylistCurator.Schema

open Json

/-- How deep a value may nest that stands in a field, given how deep it may in what the field is read
as. What is kept of a record is kept with everything in it, one level further down. -/
def roomIn (schema : Schema) (name : String) (room : Option Nat) : Option Nat :=
  match schema.room? with
  | some outer => if name = "items" then room else some (outer - 1)
  | none => room

/-- A member that names no field is put into the object of a record, somewhere in what is read.
Where the member is kept, `room` says how deep its value may nest. -/
inductive Inserts (key : List StringUnit) (added : Json) :
    Schema → Option Nat → Json → Json → Prop
  /-- The record itself is given by an object. -/
  | object {schema : Schema} {before after : List (List StringUnit × Json)}
    (hkey : ∀ name, textOf? key = some name → name ∉ schema.keys) :
    Inserts key added schema schema.room? (.object (before ++ after))
      (.object (before ++ (key, added) :: after))
  /-- The record is in a field of one that is given by an object. -/
  | member {schema part : Schema} {name : String} {units : List StringUnit} {room : Option Nat}
    {value value' : Json} {before after : List (List StringUnit × Json)}
    (hunits : textOf? units = some name) (hpart : schema.Holds name part)
    (h : Inserts key added part room value value') :
    Inserts key added schema (schema.roomIn name room) (.object (before ++ (units, value) :: after))
      (.object (before ++ (units, value') :: after))
  /-- The record is in a field of one that is given by the list of its fields. -/
  | position {schema part : Schema} {name : String} {room : Option Nat} {value value' : Json}
    {before after : List Json} (hname : schema.keys[before.length]? = some name)
    (hpart : schema.Holds name part) (h : Inserts key added part room value value') :
    Inserts key added schema (schema.roomIn name room) (.array (before ++ value :: after))
      (.array (before ++ value' :: after))
  /-- The record is in one of the values of a list. -/
  | item {of : Schema} {room : Option Nat} {value value' : Json} {before after : List Json}
    (h : Inserts key added of room value value') :
    Inserts key added (.list of) room (.array (before ++ value :: after))
      (.array (before ++ value' :: after))

/-- Whether a member that names no field is passed over: its key must be a text, and where it is
kept, its value must be such that it can be. -/
def isIgnored (key : List StringUnit) (added : Json) (room : Option Nat) : Bool :=
  (textOf? key).isSome && room.all (added.isStorable ·)

theorem isIgnored_none (key : List StringUnit) (added : Json) :
    isIgnored key added none = (textOf? key).isSome :=
  Bool.and_true _

theorem isIgnored_some (key : List StringUnit) (added : Json) (room : Nat) :
    isIgnored key added (some room) = ((textOf? key).isSome && added.isStorable room) := rfl

section

variable {schema part : Schema} {name : String} {key units : List StringUnit}
  {added value value' : Json} {room : Option Nat}

/-! ## Values -/

/-- The fields of a record stay as they are, if the member is passed over. -/
theorem fields?_insert (hkey : ∀ name, textOf? key = some name → name ∉ schema.keys)
    (added : Json) (before after : List (List StringUnit × Json)) :
    schema.fields? (.object (before ++ (key, added) :: after)) =
      if isIgnored key added schema.room? then schema.fields? (.object (before ++ after))
      else none := by
  cases hroom : schema.room? with
  | none => simp [fields?, areKept, hroom, Fields.ofMembers?_insert hkey, isIgnored_none]
  | some outer =>
    -- The items are a field, so that this is another member.
    have hitems : textOf? key ≠ some "items" := fun hitems => hkey _ hitems (items_mem_keys hroom)
    simp only [fields?, Fields.ofMembers?_insert hkey, areKept_insert hitems, hroom,
      Option.all_some, isIgnored_some]
    grind

theorem Inserts.ne_null (h : Inserts key added schema room value value') :
    value ≠ .null ∧ value' ≠ .null := by
  cases h <;> exact ⟨nofun, nofun⟩

/-- What is kept of a stored playlist holds no further records, so that a member that is put there
is one more value to be kept. -/
theorem Inserts.isStorable_eq {depth : Nat} (hpart : (stored depth).Holds name part)
    (hname : name ≠ "items") (h : Inserts key added part room value value') (outer : Nat) :
    room = none ∧ value'.isStorable outer =
      (value.isStorable outer && isIgnored key added (some (outer - 1))) := by
  cases hpart with
  | storedItems => exact absurd rfl hname
  | storedOwner | storedTracks =>
    cases h with
    | object hkey => exact ⟨rfl, isStorable_object_insert outer _ _ _⟩
    | member _ hpart _ => cases hpart
    | position _ hpart _ => cases hpart

/-- What is kept of a record can still be kept when a member has been put into one of its fields, if
that is passed over there as well. -/
theorem Inserts.areKept_exchange (hpart : schema.Holds name part)
    (hunits : textOf? units = some name) (h : Inserts key added part room value value')
    (before after : List (List StringUnit × Json)) :
    ∃ kept, schema.areKept (before ++ (units, value') :: after) =
        (schema.areKept (before ++ (units, value) :: after) && kept) ∧
      isIgnored key added (schema.roomIn name room) = (isIgnored key added room && kept) := by
  cases hroom : schema.room? with
  | none =>
    refine ⟨true, ?_, ?_⟩
    · simp [areKept, hroom]
    · rw [roomIn, hroom, Bool.and_true]
  | some outer =>
    by_cases hname : name = "items"
    · subst hname
      refine ⟨true, ?_, ?_⟩
      · rw [areKept_items hunits, areKept_items hunits, Bool.and_true]
      · rw [roomIn, hroom, Bool.and_true]
        rfl
    · -- The record in the field is kept itself, and leaves its members one level less.
      obtain ⟨depth, rfl⟩ : ∃ depth, schema = stored depth := by
        cases schema <;> first | exact ⟨_, rfl⟩ | cases hroom
      obtain ⟨rfl, hstorable⟩ := h.isStorable_eq hpart hname outer
      have hitems : textOf? units ≠ some "items" := by
        rw [hunits]
        simpa using hname
      refine ⟨isIgnored key added (some (outer - 1)), ?_, ?_⟩
      · rw [areKept_insert hitems, areKept_insert hitems, hroom, Option.all_some,
          Option.all_some, hstorable, hunits, Bool.and_assoc]
        rfl
      · rw [roomIn, hroom, isIgnored_none, isIgnored_some]
        simp [hname, isIgnored_some]

/-- A member that is put into a value changes nothing of what is read, if it is passed over, and
else the value is refused. -/
theorem read_inserts (h : Inserts key added schema room value value') :
    schema.read value' = if isIgnored key added room then schema.read value else none := by
  -- By induction on the place of the member: a field in which it stands is read as before or not.
  induction h with
  | @object schema before after hkey =>
    rcases schema.exists_buildsBy with ⟨of, rfl⟩ | ⟨build, hbuild⟩
    · -- No list is given by an object.
      exact (ite_self _).symm
    · rw [hbuild.read_eq, hbuild.read_eq, fields?_insert hkey]
      split_ifs <;> rfl
  | member hunits hpart h ih =>
    obtain ⟨kept, hkept, hignored⟩ := h.areKept_exchange hpart hunits _ _
    rw [hignored]
    exact read_object_exchange hpart hunits h.ne_null.1 h.ne_null.2 ih hkept
  | @position schema _ _ _ _ _ _ after hname hpart h ih =>
    cases hroom : schema.room? with
    | none =>
      rw [roomIn, hroom]
      exact read_array_exchange hpart hname after h.ne_null.1 h.ne_null.2 ih
    | some outer => rw [read_array_of_room? hroom, read_array_of_room? hroom, ite_self]
  | item h ih => exact list?_array_exchange ih _ _

/-! ## Texts -/

/-- A member that names no field is put into a text: something is put between two of its tokens, so
that the value gets the member. -/
def IsInsertion (schema : Schema) (room : Option Nat) (key : List StringUnit) (added : Json)
    (text text' : String) : Prop :=
  ∃ value value' before more after, Inserts key added schema room value value' ∧
    IsSplice value value' before more after ∧ text = before ++ after ∧
    text' = before ++ more ++ after

/-- What is read of a text is what was read of it before the member was put into it, if the member
is passed over, and else nothing. -/
theorem IsInsertion.parse_eq {text text' : String}
    (h : IsInsertion schema room key added text text') :
    schema.parse text' = if isIgnored key added room then schema.parse text else none := by
  obtain ⟨value, value', before, more, after, hinserts, hsplice, rfl, rfl⟩ := h
  obtain ⟨hvalue, hvalue'⟩ := hsplice.parse_splice
  rw [parse, parse, hvalue, hvalue']
  exact read_inserts hinserts

/-- Whether there is no stored playlist in what is read. -/
def isDirect : Schema → Bool
  | .stored _ | .snapshot => false
  | .list of => of.isDirect
  | _ => true

theorem Inserts.room_eq_none (h : Inserts key added schema room value value')
    (hdirect : schema.isDirect = true) : room = none := by
  induction h with
  | @object schema => cases schema <;> first | rfl | cases hdirect
  | member _ hpart _ ih => cases hpart <;> first | exact ih rfl | cases hdirect
  | position _ hpart _ ih => cases hpart <;> first | exact ih rfl | cases hdirect
  | item _ ih => exact ih hdirect

/-- Where there are no stored playlists, any value is passed over under a key that is a text. -/
theorem IsInsertion.parse_eq_of_isDirect {text text' : String} (hdirect : schema.isDirect = true)
    (hkey : (textOf? key).isSome = true) (h : IsInsertion schema room key added text text') :
    schema.parse text' = schema.parse text := by
  have hignored : isIgnored key added room = true := by
    obtain ⟨_, _, _, _, _, hinserts, -⟩ := h
    rw [hinserts.room_eq_none hdirect, isIgnored_none, hkey]
  rw [h.parse_eq, if_pos hignored]

/-- A text that is accepted is still accepted, and read as the same, with the member in it, exactly
if the member is passed over. Where there are no stored playlists, that is so whatever its value is,
if its key is a text. -/
theorem parse_insertion {text text' : String} {record : schema.Result}
    (hread : schema.parse text = some record)
    (h : IsInsertion schema room key added text text') :
    (schema.parse text' = if isIgnored key added room then some record else none) ∧
      (schema.isDirect = true → (textOf? key).isSome = true →
        schema.parse text' = some record) := by
  refine ⟨?_, fun hdirect hkey => ?_⟩
  · rw [h.parse_eq, hread]
  · rw [h.parse_eq_of_isDirect hdirect hkey, hread]

/-- A playlist with an owner and nothing else, up to the end of its object. -/
def sparseText : String :=
  "\x7b\"id\": \"p\", \"owner\": \x7b\"id\": \"o\"\x7d"

/-- The tokens of `sparseText`. -/
def sparseTokens : List Token :=
  [.openObject, .string (unitsOf "id"), .colon, .string (unitsOf "p"), .comma,
    .string (unitsOf "owner"), .colon, .openObject, .string (unitsOf "id"), .colon,
    .string (unitsOf "o"), .closeObject]

/-- The members of that playlist. -/
def sparseMembers : List (List StringUnit × Json) :=
  [(unitsOf "id", .ofText "p"), (unitsOf "owner", .ofMembers [("id", .ofText "o")])]

/-- A number that has no value in double precision. -/
def hugeNumber : Json :=
  .number ⟨false, ['1'], [], some (false, ['4', '0', '0'])⟩

/-- The huge number is put at the end of the playlist. -/
theorem isInsertion_hugeNumber (hkey : "x" ∉ schema.keys) :
    IsInsertion schema schema.room? (unitsOf "x") hugeNumber (sparseText ++ "\x7d")
      (sparseText ++ ", \"x\": 1e400" ++ "\x7d") := by
  have hinserts : Inserts (unitsOf "x") hugeNumber schema schema.room?
      (.object (sparseMembers ++ []))
      (.object (sparseMembers ++ [(unitsOf "x", hugeNumber)])) := by
    refine .object fun name hname => ?_
    rw [textOf?_unitsOf] at hname
    cases hname
    exact hkey
  have hbefore : tokenize sparseText.toList = some sparseTokens := by decide +kernel
  have hmore : tokenize ", \"x\": 1e400".toList =
      some (.comma :: tokensOfMember (unitsOf "x", hugeNumber)) := by decide +kernel
  have hafter : tokenize "\x7d".toList = some [.closeObject] := by decide +kernel
  exact ⟨_, _, sparseText, ", \"x\": 1e400", "\x7d", hinserts,
    ⟨sparseTokens, _, _, hbefore, hmore, hafter, by decide +kernel, by decide +kernel⟩, rfl, rfl⟩

/-- As a listed playlist, the text is read as before. -/
theorem parse_insertion_hugeNumber :
    ∃ record, parse .playlist (sparseText ++ "\x7d") = some record ∧
      IsInsertion .playlist none (unitsOf "x") hugeNumber (sparseText ++ "\x7d")
        (sparseText ++ ", \"x\": 1e400" ++ "\x7d") ∧
      parse .playlist (sparseText ++ ", \"x\": 1e400" ++ "\x7d") = some record := by
  obtain ⟨record, hread⟩ : ∃ record, parse .playlist (sparseText ++ "\x7d") = some record :=
    Option.isSome_iff_exists.1 (by decide +kernel)
  have hinsertion : IsInsertion .playlist none (unitsOf "x") hugeNumber (sparseText ++ "\x7d")
      (sparseText ++ ", \"x\": 1e400" ++ "\x7d") :=
    isInsertion_hugeNumber (show "x" ∉ Playlist.keys by decide)
  exact ⟨record, hread, hinsertion, (parse_insertion hread hinsertion).2 rfl (by decide)⟩

/-- As a stored playlist, the text is refused. -/
theorem not_ignored_hugeNumber :
    IsInsertion (.stored 0) (some 126) (unitsOf "x") hugeNumber (sparseText ++ "\x7d")
        (sparseText ++ ", \"x\": 1e400" ++ "\x7d") ∧
      (parse (.stored 0) (sparseText ++ "\x7d")).isSome ∧
      (parse (.stored 0) (sparseText ++ ", \"x\": 1e400" ++ "\x7d")).isNone := by
  have hkey : "x" ∉ (Schema.stored 0).keys := by
    show "x" ∉ "items" :: Playlist.keys
    decide
  exact ⟨isInsertion_hugeNumber hkey, by decide +kernel, by decide +kernel⟩

/-! ## Where members can be put -/

/-- The tokens of a member with the comma that it needs: in an object without members none, in front
of another member one behind it, and at the end one in front of it. -/
def IsPiece (key : List StringUnit) (added : Json) (between : List Token) : Prop :=
  between = tokensOfMember (key, added) ∨ between = tokensOfMember (key, added) ++ [.comma] ∨
    between = .comma :: tokensOfMember (key, added)

/-- The tokens of the second value are those of the first one with the member put in. -/
def GetsPiece (key : List StringUnit) (added value value' : Json) : Prop :=
  ∃ tokens between others, IsPiece key added between ∧ value.tokens = tokens ++ others ∧
    value'.tokens = tokens ++ (between ++ others)

/-- An object gets a member with its comma. -/
theorem getsPiece_object (key : List StringUnit) (added : Json)
    (before after : List (List StringUnit × Json)) :
    GetsPiece key added (.object (before ++ after))
      (.object (before ++ (key, added) :: after)) := by
  rw [GetsPiece, tokens_object_append_cons]
  cases after with
  | cons next rest =>
    rw [tokens_object_append_cons]
    exact ⟨.openObject :: withCommas (before.map tokensOfMember), _, _, .inr (.inl rfl), rfl,
      by simp⟩
  | nil =>
    rcases List.eq_nil_or_concat before with rfl | ⟨front, last, rfl⟩
    · exact ⟨[.openObject], _, [.closeObject], .inl rfl, rfl, by simp [withCommas]⟩
    · rw [List.append_nil, List.concat_eq_append, tokens_object_append_cons]
      exact ⟨.openObject :: (withCommas (front.map tokensOfMember) ++ tokensOfMember last), _,
        [.closeObject], .inr (.inr rfl), by simp, by simp [withCommas_concat]⟩

/-- What stands around a value stays as it is. -/
theorem GetsPiece.within {outer outer' : Json} {left right : List Token}
    (h : GetsPiece key added value value') (houter : outer.tokens = left ++ (value.tokens ++ right))
    (houter' : outer'.tokens = left ++ (value'.tokens ++ right)) :
    GetsPiece key added outer outer' := by
  obtain ⟨tokens, between, others, hpiece, hvalue, hvalue'⟩ := h
  refine ⟨left ++ tokens, between, others ++ right, hpiece, ?_, ?_⟩
  · rw [houter, hvalue]
    simp only [List.append_assoc]
  · rw [houter', hvalue']
    simp only [List.append_assoc]

theorem GetsPiece.within_array (h : GetsPiece key added value value') (before after : List Json) :
    GetsPiece key added (.array (before ++ value :: after))
      (.array (before ++ value' :: after)) := by
  have htokens : ∀ json : Json, (Json.array (before ++ json :: after)).tokens =
      (.openArray :: withCommas (before.map tokens)) ++
        (json.tokens ++ ((after.map tokens).flatMap (.comma :: ·) ++ [.closeArray])) :=
    fun json => tokens_array_append_cons before json after
  exact h.within (htokens value) (htokens value')

theorem GetsPiece.within_object (h : GetsPiece key added value value') (units : List StringUnit)
    (before after : List (List StringUnit × Json)) :
    GetsPiece key added (.object (before ++ (units, value) :: after))
      (.object (before ++ (units, value') :: after)) := by
  have htokens : ∀ json : Json, (Json.object (before ++ (units, json) :: after)).tokens =
      (.openObject :: (withCommas (before.map tokensOfMember) ++ [.string units, .colon])) ++
        (json.tokens ++ ((after.map tokensOfMember).flatMap (.comma :: ·) ++ [.closeObject])) := by
    intro json
    rw [tokens_object_append_cons]
    simp [tokensOfMember]
  exact h.within (htokens value) (htokens value')

theorem Inserts.getsPiece (h : Inserts key added schema room value value') :
    GetsPiece key added value value' := by
  induction h with
  | object hkey => exact getsPiece_object _ _ _ _
  | member hunits hpart h ih => exact ih.within_object _ _ _
  | position hname hpart h ih => exact ih.within_array _ _
  | item h ih => exact ih.within_array _ _

theorem tokenize_comma_append {member : String} {tokens : List Token}
    (hmember : tokenize member.toList = some tokens) :
    tokenize ("," ++ member).toList = some (.comma :: tokens) := by
  have hcomma : tokenize ",".toList = some [.comma] := rfl
  rw [String.toList_append]
  exact tokenize_append hcomma hmember (by simp [Token.isBare])

theorem tokenize_append_comma {member : String} {tokens : List Token}
    (hmember : tokenize member.toList = some tokens) :
    tokenize (member ++ ",").toList = some (tokens ++ [.comma]) := by
  have hcomma : tokenize ",".toList = some [.comma] := rfl
  rw [String.toList_append]
  exact tokenize_append hmember hcomma (by simp [Token.isBare])

/-- Wherever a member can be put into the value of a text, it can be put into the text, however the
two are written. -/
theorem exists_insertion {text member : String} (hvalue : Json.parse text = some value)
    (h : Inserts key added schema room value value')
    (hmember : tokenize member.toList = some (tokensOfMember (key, added))) :
    ∃ before after, text = before ++ after ∧
      ∃ more ∈ [member, member ++ ",", "," ++ member],
        IsInsertion schema room key added text (before ++ more ++ after) := by
  obtain ⟨tokens, between, others, hpiece, hfirst, hsecond⟩ := h.getsPiece
  rw [parse_eq_some_iff, hfirst] at hvalue
  obtain ⟨before, after, htext, hbefore, hafter⟩ := exists_cut hvalue
  obtain ⟨more, hmem, hmore⟩ : ∃ more ∈ [member, member ++ ",", "," ++ member],
      tokenize more.toList = some between := by
    rcases hpiece with rfl | rfl | rfl
    · exact ⟨_, by simp, hmember⟩
    · exact ⟨_, by simp, tokenize_append_comma hmember⟩
    · exact ⟨_, by simp, tokenize_comma_append hmember⟩
  have hsplit : text = String.ofList before ++ String.ofList after := by
    rw [← String.ofList_append, ← htext, String.ofList_toList]
  refine ⟨.ofList before, .ofList after, hsplit, more, hmem, value, value', .ofList before, more,
    .ofList after, h, ⟨tokens, between, others, ?_, hmore, ?_, hfirst, hsecond⟩, hsplit, rfl⟩
  · rw [String.toList_ofList, hbefore]
  · rw [String.toList_ofList, hafter]

end

end PlaylistCurator.Schema
