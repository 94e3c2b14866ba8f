import PlaylistCurator.Query.Field
import PlaylistCurator.Record.Value

/-!
# Records of a listing

A record is one line of a playlist listing: the playlist's id and the values of those fields that
are known. Any field can hold either kind of value.

* `Record.get_set`: what a field holds after a field has been set.
-/

namespace PlaylistCurator

/-- One line of a playlist listing. -/
structure Record where
  /-- The playlist's id. -/
  id : String
  /-- The value of the field `Field.name`. -/
  name : Option Value := none
  /-- The value of the field `Field.size`. -/
  size : Option Value := none
  /-- The value of the field `Field.owner`. -/
  owner : Option Value := none
  /-- The value of the field `Field.description`. -/
  description : Option Value := none
  deriving DecidableEq, Repr

namespace Record

/-- The value of a field, if the record has one. -/
def get (record : Record) : Field → Option Value
  | .name => record.name
  | .size => record.size
  | .owner => record.owner
  | .description => record.description

/-- The record with a field set to a value. -/
def set (record : Record) (field : Field) (value : Value) : Record :=
  match field with
  | .name => { record with name := some value }
  | .size => { record with size := some value }
  | .owner => { record with owner := some value }
  | .description => { record with description := some value }

/-- A field as it is shown; an absent field is shown as nothing. -/
def text (record : Record) (field : Field) : String :=
  match record.get field with
  | some value => value.display
  | none => ""

/-- Setting a field changes that field alone. -/
@[simp]
theorem get_set (record : Record) (field other : Field) (value : Value) :
    (record.set field value).get other = if other = field then some value else record.get other := by
  cases field <;> cases other <;> rfl

/-- Setting a field keeps the id. -/
@[simp]
theorem id_set (record : Record) (field : Field) (value : Value) :
    (record.set field value).id = record.id := by
  cases field <;> rfl

end Record

end PlaylistCurator
