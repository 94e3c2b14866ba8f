import PlaylistCurator.Json.Reader
import PlaylistCurator.Proofs.Json.Spelling

/-!
# Reading back what was written

A value whose strings are texts and whose numbers are natural numbers is read back from its indented
text. Between the text and the value stand the tokens of the value (`Json.tokens`): the text spells
them (`spells_write`), and reading them gives the value (`read_tokens`). Both go by induction on the
value, along with the lists of items and members in it.

* `parse_pretty`: a plain value is read back.
-/

namespace PlaylistCurator.Json

/-! ## Tokens of values -/

mutual

/-- The tokens of a value. -/
def tokens : Json → List Token
  | .null => [.null]
  | .bool value => [.bool value]
  | .number literal => [.number literal]
  | .string units => [.string units]
  | .array items =>
    .openArray :: (List.intercalate [.comma] (itemTokens items) ++ [.closeArray])
  | .object members =>
    .openObject :: (List.intercalate [.comma] (memberTokens members) ++ [.closeObject])

/-- The tokens of the items of a list. -/
def itemTokens : List Json → List (List Token)
  | [] => []
  | item :: rest => tokens item :: itemTokens rest

/-- The tokens of the members of an object. -/
def memberTokens : List (List StringUnit × Json) → List (List Token)
  | [] => []
  | (key, value) :: rest => (.string key :: .colon :: tokens value) :: memberTokens rest

end

mutual

/-- The strings of the value are texts, and its numbers are natural numbers. -/
def IsPlain : Json → Prop
  | .null | .bool _ => True
  | .number literal => ∃ n, literal = .ofNat n
  | .string units => ∃ text, units = unitsOf text
  | .array items => ArePlain items
  | .object members => MembersArePlain members

/-- All items of a list are plain. -/
def ArePlain : List Json → Prop
  | [] => True
  | item :: rest => IsPlain item ∧ ArePlain rest

/-- All members of an object are plain, and so are their keys. -/
def MembersArePlain : List (List StringUnit × Json) → Prop
  | [] => True
  | (key, value) :: rest =>
    (∃ text, key = unitsOf text) ∧ IsPlain value ∧ MembersArePlain rest

end

theorem isPlain_ofText (text : String) : (ofText text).IsPlain := by
  simp only [ofText, IsPlain]
  exact ⟨text, rfl⟩

theorem isPlain_ofNat (n : Nat) : (ofNat n).IsPlain := by
  simp only [ofNat, IsPlain]
  exact ⟨n, rfl⟩

theorem isPlain_ofOption {α : Type} {write : α → Json} (h : ∀ value, (write value).IsPlain)
    (value : Option α) : (ofOption write value).IsPlain := by
  cases value with
  | none => simp [ofOption, IsPlain]
  | some value => exact h value

theorem isPlain_array {items : List Json} (h : ∀ item ∈ items, item.IsPlain) :
    (Json.array items).IsPlain := by
  rw [IsPlain]
  induction items with
  | nil => simp [ArePlain]
  | cons item rest ih =>
    rw [List.forall_mem_cons] at h
    exact ⟨h.1, ih h.2⟩

theorem isPlain_ofMembers {members : List (String × Json)}
    (h : ∀ member ∈ members, member.2.IsPlain) : (ofMembers members).IsPlain := by
  rw [ofMembers, IsPlain]
  induction members with
  | nil => simp [MembersArePlain]
  | cons member rest ih =>
    rw [List.forall_mem_cons] at h
    exact ⟨⟨member.1, rfl⟩, h.1, ih h.2⟩

/-! ## From the text to the tokens -/

mutual

/-- A plain value is written in a text that spells its tokens. -/
theorem spells_write (depth : Nat) :
    (value : Json) → value.IsPlain → Spells (write depth value) value.tokens
  | .null, _ => spells_null
  | .bool true, _ => spells_bool true
  | .bool false, _ => spells_bool false
  | .number literal, h => by
    obtain ⟨n, rfl⟩ := h
    exact spells_ofNat n
  | .string units, h => by
    obtain ⟨text, rfl⟩ := h
    show Spells (writeString (unitsOf text)) [.string (unitsOf text)]
    rw [← List.append_nil (writeString _)]
    exact spells_nil.writeString_append text
  | .array items, h =>
    spells_writeBlock (fun _ => rfl) (fun _ => rfl) depth
      (spells_writeItems (depth + 1) items h)
  | .object members, h =>
    spells_writeBlock (fun _ => rfl) (fun _ => rfl) depth
      (spells_writeMembers (depth + 1) members h)

theorem spells_writeItems (depth : Nat) :
    (items : List Json) → ArePlain items →
      List.Forall₂ Spells (writeItems depth items) (itemTokens items)
  | [], _ => .nil
  | item :: rest, h => .cons (spells_write depth item h.1) (spells_writeItems depth rest h.2)

theorem spells_writeMembers (depth : Nat) :
    (members : List (List StringUnit × Json)) → MembersArePlain members →
      List.Forall₂ Spells (writeMembers depth members) (memberTokens members)
  | [], _ => .nil
  | (key, value) :: rest, h => by
    obtain ⟨⟨text, rfl⟩, hvalue, hrest⟩ := h
    refine .cons ?_ (spells_writeMembers depth rest hrest)
    -- A member is its key, a colon with a blank behind it, and its value.
    have hcolon : Spells (": ".toList ++ write depth value) (.colon :: value.tokens) :=
      ((spells_write depth value hvalue).space rfl).mark fun _ => rfl
    rw [List.append_assoc]
    exact hcolon.writeString_append text

end

/-! ## From the tokens to the value -/

open Reader

theorem read_nil (reader : Reader) : reader.read [] = some reader := rfl

theorem read_cons (reader : Reader) (token : Token) (rest : List Token) :
    reader.read (token :: rest) = (reader.step token).bind fun next => next.read rest := rfl

/-- A list or an object is not closed where a value begins. -/
theorem exists_tokens_eq_cons (value : Json) :
    ∃ token rest, value.tokens = token :: rest ∧ token ≠ .closeArray := by
  cases value <;> rw [tokens] <;> exact ⟨_, _, rfl, by simp⟩

/-- The first item of a list is read like any other value in the list. -/
theorem read_atListStart {value : Json} (frames : List Frame) (more : List Token) :
    (Reader.atListStart frames).read (value.tokens ++ more) =
      (Reader.atValue (.array [] :: frames)).read (value.tokens ++ more) := by
  obtain ⟨token, rest, hvalue, htoken⟩ := value.exists_tokens_eq_cons
  have hstep : (Reader.atListStart frames).step token = stepValue (.array [] :: frames) token := by
    cases token <;> first | rfl | exact absurd rfl htoken
  rw [hvalue, List.cons_append, read_cons, read_cons, hstep]
  rfl

mutual

/-- The tokens of a value are read as the value, in whatever frames. -/
theorem read_tokens (frames : List Frame) :
    (value : Json) → (Reader.atValue frames).read value.tokens = some (.done value frames)
  | .null | .bool _ | .number _ | .string _ | .array [] | .object [] => rfl
  | .array (item :: rest) => by
    have hitems := read_items frames [] (item :: rest) (by simp)
    -- At its start a list may still be empty, but a value makes no use of that.
    have hfirst : (Reader.atListStart frames).read
        (List.intercalate [.comma] (itemTokens (item :: rest)) ++ [.closeArray]) =
          (Reader.atValue (.array [] :: frames)).read
            (List.intercalate [.comma] (itemTokens (item :: rest)) ++ [.closeArray]) := by
      cases rest <;> simp [itemTokens, read_atListStart]
    rw [tokens, read_cons]
    exact hfirst.trans hitems
  | .object (member :: rest) => by
    have hmembers := read_members frames [] (member :: rest) (by simp)
    -- The same goes for the start of an object and the first key.
    have hfirst : (Reader.atObjectStart frames).read
        (List.intercalate [.comma] (memberTokens (member :: rest)) ++ [.closeObject]) =
          (Reader.atKey [] frames).read
            (List.intercalate [.comma] (memberTokens (member :: rest)) ++ [.closeObject]) := by
      cases rest <;> simp [memberTokens, read_cons, step]
    rw [tokens, read_cons]
    exact hfirst.trans hmembers

/-- The items of a list that is still open, up to its end. -/
theorem read_items (frames : List Frame) (before : List Json) :
    (items : List Json) → items ≠ [] →
      (Reader.atValue (.array before :: frames)).read
          (List.intercalate [.comma] (itemTokens items) ++ [.closeArray]) =
        some (.done (.array (before.reverse ++ items)) frames)
  | [], h => absurd rfl h
  | [item], _ => by
    have hitem := read_tokens (.array before :: frames) item
    simp [itemTokens, read_append, hitem, read_cons, read_nil, step, stepDone]
  | item :: next :: others, _ => by
    have hitem := read_tokens (.array before :: frames) item
    have hrest := read_items frames (item :: before) (next :: others) (by simp)
    rw [itemTokens, itemTokens, List.intercalate_cons_cons, List.append_assoc, List.append_assoc,
      read_append, hitem]
    simpa [itemTokens, read_cons, step, stepDone] using hrest

/-- The members of an object that is still open, up to its end. -/
theorem read_members (frames : List Frame) (before : List (List StringUnit × Json)) :
    (members : List (List StringUnit × Json)) → members ≠ [] →
      (Reader.atKey before frames).read
          (List.intercalate [.comma] (memberTokens members) ++ [.closeObject]) =
        some (.done (.object (before.reverse ++ members)) frames)
  | [], h => absurd rfl h
  | [(key, value)], _ => by
    have hvalue := read_tokens (.object before key :: frames) value
    simp [memberTokens, read_append, hvalue, read_cons, read_nil, step, stepDone]
  | (key, value) :: next :: others, _ => by
    have hvalue := read_tokens (.object before key :: frames) value
    have hrest := read_members frames ((key, value) :: before) (next :: others) (by simp)
    rw [memberTokens, memberTokens, List.intercalate_cons_cons, List.append_assoc,
      List.append_assoc, List.cons_append, List.cons_append, read_cons, step, Option.bind_some,
      read_cons, step, Option.bind_some, read_append, hvalue]
    simpa [memberTokens, read_cons, step, stepDone] using hrest

end

/-- A plain value is read back from its indented text. -/
theorem parse_pretty {value : Json} (h : value.IsPlain) : parse value.pretty = some value := by
  have hspells := (spells_write 0 value h).tokenize_eq
  have hread := read_tokens [] value
  rw [parse, pretty, String.toList_ofList, hspells, Option.bind_some, ofTokens?, start, hread]
  rfl

end PlaylistCurator.Json
