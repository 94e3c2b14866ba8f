import PlaylistCurator.Proofs.Json.RoundTrip

/-!
# The texts of a value

Whatever a text is read as, its tokens are those of the value: in the middle of reading, the tokens
that have been read are those of the frames that are open, of what these hold already, and of the
last complete value (`Reader.tokens`), and each step adds the token that is read.

* `Reader.tokens_step`: what a step has read;
* `parse_eq_some_iff`: a text is read as a value exactly if its tokens are those of the value.
-/

namespace PlaylistCurator.Json

/-! ## Tokens in front of a place -/

theorem itemTokens_eq_map (items : List Json) : itemTokens items = items.map tokens := by
  induction items with
  | nil => rfl
  | cons item rest ih => rw [itemTokens, ih, List.map_cons]

/-- The tokens of a member of an object. -/
def tokensOfMember (member : List StringUnit × Json) : List Token :=
  .string member.1 :: .colon :: member.2.tokens

theorem memberTokens_eq_map (members : List (List StringUnit × Json)) :
    memberTokens members = members.map tokensOfMember := by
  induction members with
  | nil => rfl
  | cons member rest ih => rw [memberTokens, ih, List.map_cons, tokensOfMember]

/-- Parts of a list, each with a comma behind it. -/
def withCommas (parts : List (List Token)) : List Token :=
  parts.flatMap (· ++ [.comma])

theorem withCommas_concat (parts : List (List Token)) (part : List Token) :
    withCommas (parts ++ [part]) = withCommas parts ++ (part ++ [.comma]) := by
  simp [withCommas]

/-- Parts with commas between them, seen from one of the parts. -/
theorem intercalate_append_cons (parts : List (List Token)) (part : List Token)
    (others : List (List Token)) :
    List.intercalate [.comma] (parts ++ part :: others) =
      withCommas parts ++ (part ++ others.flatMap (.comma :: ·)) := by
  induction parts generalizing part with
  | nil =>
    induction others generalizing part with
    | nil => simp [withCommas]
    | cons next rest ih =>
      have hrest := ih next
      rw [List.nil_append] at hrest ⊢
      rw [List.intercalate_cons_cons, hrest]
      simp [withCommas]
  | cons first rest ih =>
    rw [List.cons_append, List.intercalate_cons_of_ne_nil (by simp), ih]
    simp [withCommas]

/-- The tokens of a list, seen from one of its items. -/
theorem tokens_array_append_cons (before : List Json) (item : Json) (after : List Json) :
    (Json.array (before ++ item :: after)).tokens =
      .openArray :: (withCommas (before.map tokens) ++ (item.tokens ++
        ((after.map tokens).flatMap (.comma :: ·) ++ [.closeArray]))) := by
  rw [tokens, itemTokens_eq_map, List.map_append, List.map_cons, intercalate_append_cons]
  simp only [List.append_assoc]

/-- The tokens of an object, seen from one of its members. -/
theorem tokens_object_append_cons (before : List (List StringUnit × Json))
    (member : List StringUnit × Json) (after : List (List StringUnit × Json)) :
    (Json.object (before ++ member :: after)).tokens =
      .openObject :: (withCommas (before.map tokensOfMember) ++ (tokensOfMember member ++
        ((after.map tokensOfMember).flatMap (.comma :: ·) ++ [.closeObject]))) := by
  rw [tokens, memberTokens_eq_map, List.map_append, List.map_cons, intercalate_append_cons]
  simp only [List.append_assoc]

/-- The tokens of a frame up to the place of the value that is being read. -/
def Frame.tokens : Frame → List Token
  | .array items => .openArray :: withCommas (items.reverse.map Json.tokens)
  | .object members key =>
    .openObject :: (withCommas (members.reverse.map tokensOfMember) ++ [.string key, .colon])

/-- The tokens of the open frames, of which the innermost one comes first in the list. -/
def tokensOfFrames : List Frame → List Token
  | [] => []
  | frame :: outer => tokensOfFrames outer ++ frame.tokens

/-- The tokens that have been read when a reader has come to a state. -/
def Reader.tokens : Reader → List Token
  | .atValue frames => tokensOfFrames frames
  | .atListStart frames => tokensOfFrames frames ++ [.openArray]
  | .atObjectStart frames => tokensOfFrames frames ++ [.openObject]
  | .atKey members frames =>
    tokensOfFrames frames ++ .openObject :: withCommas (members.reverse.map tokensOfMember)
  | .atColon members key frames =>
    tokensOfFrames frames ++
      .openObject :: (withCommas (members.reverse.map tokensOfMember) ++ [.string key])
  | .done value frames => tokensOfFrames frames ++ value.tokens

/-! ## Reading -/

namespace Reader

/-- A value is begun by its first token. -/
theorem tokens_stepValue {frames : List Frame} {token : Token} {next : Reader}
    (h : stepValue frames token = some next) :
    next.tokens = tokensOfFrames frames ++ [token] := by
  cases token with
  | closeArray | closeObject | comma | colon => cases h
  | _ =>
    obtain rfl := Option.some.inj h
    simp [Reader.tokens, Json.tokens]

/-- After a value, a comma or the end of the frame around it is read. -/
theorem tokens_stepDone {value : Json} {frames : List Frame} {token : Token} {next : Reader}
    (h : stepDone value frames token = some next) :
    next.tokens = tokensOfFrames frames ++ value.tokens ++ [token] := by
  unfold stepDone at h
  split at h
  case h_5 => cases h
  all_goals
    obtain rfl := Option.some.inj h
    simp [Reader.tokens, tokensOfFrames, Frame.tokens, withCommas_concat, tokens_array_append_cons,
      tokens_object_append_cons, tokensOfMember]

/-- A step adds its token to those that have been read. -/
theorem tokens_step {reader next : Reader} {token : Token} (h : reader.step token = some next) :
    next.tokens = reader.tokens ++ [token] := by
  unfold step at h
  split at h
  case h_1 => exact tokens_stepValue h
  case h_3 =>
    -- The first item of a list is read in the frame of the list.
    rw [tokens_stepValue h]
    simp [Reader.tokens, tokensOfFrames, Frame.tokens, withCommas]
  case h_8 => exact tokens_stepDone h
  case h_9 => cases h
  all_goals
    obtain rfl := Option.some.inj h
    simp [Reader.tokens, tokensOfFrames, Frame.tokens, Json.tokens, itemTokens, memberTokens,
      withCommas]

/-- A run adds its tokens to those that have been read. -/
theorem tokens_read {reader last : Reader} {tokens : List Token}
    (h : reader.read tokens = some last) : last.tokens = reader.tokens ++ tokens := by
  induction tokens generalizing reader with
  | nil =>
    obtain rfl := Option.some.inj h
    rw [List.append_nil]
  | cons token rest ih =>
    rw [read_cons] at h
    obtain ⟨next, hstep, hrest⟩ := Option.bind_eq_some_iff.1 h
    rw [ih hrest, tokens_step hstep, List.append_assoc, List.singleton_append]

end Reader

/-- Tokens are read as a value exactly if they are those of the value. -/
theorem ofTokens?_eq_some_iff {tokens : List Token} {value : Json} :
    ofTokens? tokens = some value ↔ tokens = value.tokens := by
  constructor
  · intro h
    obtain ⟨last, hread, hfinish⟩ := Option.bind_eq_some_iff.1 h
    have htokens := Reader.tokens_read hread
    -- Only a reader with a complete value and no open frame is at an end.
    unfold Reader.finish at hfinish
    split at hfinish
    case h_1 =>
      obtain rfl := Option.some.inj hfinish
      simpa [Reader.tokens, Reader.start, tokensOfFrames] using htokens.symm
    case h_2 => cases hfinish
  · rintro rfl
    rw [ofTokens?, Reader.start, read_tokens]
    rfl

/-- A text is read as a value exactly if its tokens are those of the value. -/
theorem parse_eq_some_iff {text : String} {value : Json} :
    parse text = some value ↔ tokenize text.toList = some value.tokens := by
  rw [parse, Option.bind_eq_some_iff]
  constructor
  · rintro ⟨tokens, htokens, hvalue⟩
    rw [htokens, ofTokens?_eq_some_iff.1 hvalue]
  · intro h
    exact ⟨_, h, ofTokens?_eq_some_iff.2 rfl⟩

end PlaylistCurator.Json
