import PlaylistCurator.Json.Value

/-!
# Reading records from JSON

A record with named fields is given by an object, or by a list of the fields' values in order. In an
object, members with other keys are passed over and a field is given at most once; a list may break
off early but not go on after the last field.

* `Fields.ofJson?`: the fields that a value gives.
* `Fields.required`, `Fields.optional`, `Fields.withDefault`: how a field is read.
-/

namespace PlaylistCurator.Json

/-- The fields that a value gives for a record, by name. -/
structure Fields where
  /-- The names, each at most once, with the values given for them. -/
  entries : List (String × Json)

namespace Fields

/-- The fields among the members of an object. -/
def ofMembers? (names : List String) (members : List (List StringUnit × Json)) :
    Option Fields := do
  let named ← members.mapM fun member => (textOf? member.1).map (·, member.2)
  let entries := named.filter (names.contains ·.1)
  if (entries.map (·.1)).Nodup then some ⟨entries⟩ else none

/-- The fields that a value gives for a record with the given names. -/
def ofJson? (names : List String) : Json → Option Fields
  | .object members => ofMembers? names members
  | .array items => if items.length ≤ names.length then some ⟨names.zip items⟩ else none
  | _ => none

/-- The value given for a field. -/
def get? (fields : Fields) (name : String) : Option Json :=
  fields.entries.lookup name

/-- Reads a field that must be given. -/
def required {α : Type} (fields : Fields) (name : String) (read : Json → Option α) : Option α :=
  (fields.get? name).bind read

/-- Reads a field that may be left out or be null. -/
def optional {α : Type} (fields : Fields) (name : String) (read : Json → Option α) :
    Option (Option α) :=
  match fields.get? name with
  | none | some .null => some none
  | some value => (read value).map some

/-- Reads a field that may be left out, but not be null. -/
def withDefault {α : Type} (fields : Fields) (name : String) (default : α)
    (read : Json → Option α) : Option α :=
  match fields.get? name with
  | none => some default
  | some value => read value

section

variable {α : Type} {fields : Fields} {name : String} {value : Json} {read : Json → Option α}

theorem required_of_get?_eq (h : fields.get? name = some value) :
    fields.required name read = read value := by
  rw [required, h, Option.bind_some]

theorem withDefault_of_get?_eq (h : fields.get? name = some value) (default : α) :
    fields.withDefault name default read = read value := by
  rw [withDefault, h]

/-- A field that may be left out is read like any other one, unless it is null. -/
theorem optional_of_get?_eq (h : fields.get? name = some value) (hvalue : value ≠ .null) :
    fields.optional name read = (read value).map some := by
  rw [optional, h]
  cases value with
  | null => exact absurd rfl hvalue
  | _ => rfl

end

end Fields

end PlaylistCurator.Json
