import Mathlib.Data.List.Basic
import Mathlib.Data.List.Nodup
import PlaylistCurator.Json.Fields

/-!
# Records in which something has changed

What is read of a record when a member is put into its object that names none of its fields, and
when the value of one of its fields is exchanged.

* `Fields.ofMembers?_insert`: a member that is unknown leaves the fields as they are;
* `Fields.Changes`: one of the fields has another value;
* `Fields.ReadsPart`: a field of which only matters what it is read as;
* `isStorable_object_insert`: what a further member needs where an object is kept.
-/

namespace PlaylistCurator.Json

/-! ## Members that are kept -/

theorem membersAreStorable_eq_all (room : Nat) (members : List (List StringUnit × Json)) :
    membersAreStorable room members =
      members.all fun member => (textOf? member.1).isSome && member.2.isStorable room := by
  induction members with
  | nil => rfl
  | cons member rest ih => rw [membersAreStorable, ih, List.all_cons]

theorem membersAreStorable_insert (room : Nat) (before after : List (List StringUnit × Json))
    (member : List StringUnit × Json) :
    membersAreStorable room (before ++ member :: after) =
      (membersAreStorable room (before ++ after) &&
        ((textOf? member.1).isSome && member.2.isStorable room)) := by
  simp only [membersAreStorable_eq_all, List.all_append, List.all_cons]
  rw [Bool.and_left_comm, Bool.and_comm]

/-- An object can still be kept with a further member in it, if the member can. -/
theorem isStorable_object_insert (room : Nat) (before after : List (List StringUnit × Json))
    (member : List StringUnit × Json) :
    (Json.object (before ++ member :: after)).isStorable room =
      ((Json.object (before ++ after)).isStorable room &&
        ((textOf? member.1).isSome && member.2.isStorable (room - 1))) := by
  rw [isStorable, isStorable, membersAreStorable_insert, Bool.and_assoc]

namespace Fields

/-! ## Members that name no field -/

/-- A member that names none of the fields is passed over, if its key is a text at all. -/
theorem ofMembers?_insert {names : List String} {key : List StringUnit}
    (hkey : ∀ name, textOf? key = some name → name ∉ names) (added : Json)
    (before after : List (List StringUnit × Json)) :
    ofMembers? names (before ++ (key, added) :: after) =
      if (textOf? key).isSome then ofMembers? names (before ++ after) else none := by
  simp only [ofMembers?, List.mapM_append, List.mapM_cons]
  cases hname : textOf? key with
  | none =>
    cases before.mapM fun member => (textOf? member.1).map (·, member.2) <;> rfl
  | some name =>
    have hunknown := hkey name hname
    cases before.mapM fun member => (textOf? member.1).map (·, member.2) with
    | none => rfl
    | some named =>
      cases after.mapM fun member => (textOf? member.1).map (·, member.2) with
      | none => rfl
      | some others => simp [hunknown]

/-! ## Fields that change -/

/-- One field has another value than before, and the others have the same. -/
structure Changes (name : String) (value value' : Json) (fields fields' : Fields) : Prop where
  /-- The value of the field before. -/
  get?_before : fields.get? name = some value
  /-- The value of the field now. -/
  get?_after : fields'.get? name = some value'
  /-- The other fields. -/
  get?_other : ∀ {other : String}, other ≠ name → fields'.get? other = fields.get? other

/-- A value is exchanged where the fields name it first. -/
theorem changes_of_entries {name : String} {entries : List (String × Json)}
    (hname : name ∉ entries.map (·.1)) (value value' : Json) (others : List (String × Json)) :
    Changes name value value' ⟨entries ++ (name, value) :: others⟩
      ⟨entries ++ (name, value') :: others⟩ := by
  have hlookup : entries.lookup name = none := by
    refine List.lookup_eq_none_iff.2 fun entry hentry => ?_
    simp only [bne_iff_ne, ne_eq]
    rintro rfl
    exact hname (List.mem_map_of_mem hentry)
  constructor
  · simp [get?, List.lookup_append, hlookup]
  · simp [get?, List.lookup_append, hlookup]
  · intro other hother
    have hne : (other == name) = false := beq_eq_false_iff_ne.2 hother
    simp [get?, List.lookup_append, List.lookup_cons, hne]

/-- The value of a member that names a field is exchanged. -/
theorem rel_ofMembers? {names : List String} {units : List StringUnit} {name : String}
    (hunits : textOf? units = some name) (hname : name ∈ names) (value value' : Json)
    (before after : List (List StringUnit × Json)) :
    Option.Rel (Changes name value value')
      (ofMembers? names (before ++ (units, value) :: after))
      (ofMembers? names (before ++ (units, value') :: after)) := by
  simp only [ofMembers?, List.mapM_append, List.mapM_cons, hunits]
  cases before.mapM fun member => (textOf? member.1).map (·, member.2) with
  | none => exact .none
  | some named =>
    cases after.mapM fun member => (textOf? member.1).map (·, member.2) with
    | none => exact .none
    | some others =>
      simp only [Option.map_some, Option.pure_def, Option.bind_eq_bind, Option.bind_some,
        List.filter_append, List.filter_cons, List.contains_iff_mem.2 hname, ↓reduceIte,
        List.map_append, List.map_cons]
      split_ifs with hnodup
      · -- No field is given twice, so that the fields before this one have other names.
        have hfirst := (List.nodup_middle.1 hnodup).notMem
        refine .some (changes_of_entries (fun hmem => hfirst ?_) value value' _)
        exact List.mem_append_left _ hmem
      · exact .none

/-- A value is exchanged in the list of the values of the fields. -/
theorem rel_ofJson?_array {names : List String} {name : String} {before : List Json}
    (hnames : names.Nodup) (hname : names[before.length]? = some name) (value value' : Json)
    (after : List Json) :
    Option.Rel (Changes name value value') (ofJson? names (.array (before ++ value :: after)))
      (ofJson? names (.array (before ++ value' :: after))) := by
  obtain ⟨hlength, rfl⟩ := List.getElem?_eq_some_iff.1 hname
  have hsplit : names = names.take before.length ++
      names[before.length] :: names.drop (before.length + 1) := by
    rw [← List.drop_eq_getElem_cons, List.take_append_drop]
  have htake : (names.take before.length).length = before.length :=
    List.length_take_of_le (Nat.le_of_lt hlength)
  have hzip : ∀ item : Json, names.zip (before ++ item :: after) =
      (names.take before.length).zip before ++
        (names[before.length], item) :: (names.drop (before.length + 1)).zip after := by
    intro item
    conv_lhs => rw [hsplit]
    rw [List.zip_append htake, List.zip_cons_cons]
  simp only [ofJson?, hzip, List.length_append, List.length_cons]
  split_ifs
  · refine .some (changes_of_entries (fun hmem => ?_) value value' _)
    -- The names in front of this one are others.
    rw [hsplit] at hnames
    refine (List.nodup_middle.1 hnames).notMem (List.mem_append_left _ ?_)
    rw [List.map_fst_zip (Nat.le_of_eq htake)] at hmem
    exact hmem
  · exact .none

/-! ## Reading fields that change -/

section

variable {β : Type} {read : Json → Option β} {fields fields' : Fields} {name other : String}
  {value value' : Json}

namespace Changes

theorem required_other (h : Changes name value value' fields fields') (hother : other ≠ name) :
    fields'.required other read = fields.required other read := by
  rw [required, required, h.get?_other hother]

theorem optional_other (h : Changes name value value' fields fields') (hother : other ≠ name) :
    fields'.optional other read = fields.optional other read := by
  rw [optional, optional, h.get?_other hother]

theorem withDefault_other (h : Changes name value value' fields fields') (hother : other ≠ name)
    (default : β) :
    fields'.withDefault other default read = fields.withDefault other default read := by
  rw [withDefault, withDefault, h.get?_other hother]

end Changes

end

/-- What is built from the fields takes of one of them just what it is read as. -/
structure ReadsPart {α β : Type} (build : Fields → Option α) (name : String)
    (read : Json → Option β) : Prop where
  /-- It makes no difference which of two values with the same meaning is given. -/
  congr : ∀ {value value' : Json} {fields fields' : Fields},
    Changes name value value' fields fields' → value ≠ .null → value' ≠ .null →
      read value' = read value → build fields' = build fields
  /-- Nothing is built if the field cannot be read. -/
  eq_none : ∀ {value : Json} {fields : Fields},
    fields.get? name = some value → value ≠ .null → read value = none → build fields = none

/-- Where a field is still read as before, or not at all, so is the whole. -/
theorem ReadsPart.bind_eq {α β : Type} {build : Fields → Option α} {name : String}
    {read : Json → Option β} {value value' : Json} {fields? fields?' : Option Fields}
    {reads : Bool} (h : ReadsPart build name read)
    (hchanges : Option.Rel (Changes name value value') fields? fields?')
    (hvalue : value ≠ .null) (hvalue' : value' ≠ .null)
    (hread : read value' = if reads then read value else none) :
    fields?'.bind build = if reads then fields?.bind build else none := by
  cases hchanges with
  | none => cases reads <;> rfl
  | some hchanges =>
    cases reads with
    | true => exact h.congr hchanges hvalue hvalue' hread
    | false => exact h.eq_none hchanges.get?_after hvalue' hread

end Fields

/-- A list in which one of the values is still read as before, or not at all. -/
theorem list?_array_exchange {α : Type} {read : Json → Option α} {value value' : Json}
    {reads : Bool} (hread : read value' = if reads then read value else none)
    (before after : List Json) :
    list? read (.array (before ++ value' :: after)) =
      if reads then list? read (.array (before ++ value :: after)) else none := by
  simp only [list?, List.mapM_append, List.mapM_cons, hread]
  cases reads with
  | true => rfl
  | false => cases before.mapM read <;> rfl

end PlaylistCurator.Json
