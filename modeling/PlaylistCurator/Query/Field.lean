import PlaylistCurator.Query.Abbreviation

/-!
# Fields of a listing

The four fields by which playlists are listed, filtered and sorted, and the words that name them
in filter and sort expressions.
-/

namespace PlaylistCurator

/-- A field of a playlist listing. -/
inductive Field
  | name
  | size
  | owner
  | description
  deriving DecidableEq, Repr

namespace Field

/-- Every field, in the order in which fields are grouped. -/
def all : List Field := [.name, .size, .owner, .description]

/-- The name of a field in messages. -/
def label : Field → String
  | .name => "name"
  | .size => "size"
  | .owner => "owner"
  | .description => "description"

/-- Whether a field holds numbers, so that it is compared as such. -/
def isNumeric : Field → Bool
  | .size => true
  | .name | .owner | .description => false

/-- The words for the fields. -/
def abbreviations : List (String × Field) := [
  ("n", .name), ("name", .name), ("p", .name), ("playlistname", .name),
  ("s", .size), ("size", .size), ("c", .size), ("count", .size), ("t", .size), ("tracks", .size),
  ("o", .owner), ("owner", .owner),
  ("d", .description), ("desc", .description), ("description", .description)]

/-- The table of the words for the fields. -/
def table : AbbreviationTable Field := .ofList abbreviations

/-- The field that a token names. -/
def find (token : Option String) : Except UnknownToken Field := table.find token

/-- The list of all fields is complete. -/
theorem mem_all (field : Field) : field ∈ all := by
  cases field <;> decide

/-- No word for a field changes its meaning when it is spelled out further. -/
theorem collisions_table : table.collisions = [] := by decide +kernel

end Field

end PlaylistCurator
