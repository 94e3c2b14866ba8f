import PlaylistCurator.Record

/-!
# The listing table

A listing is shown as a table with one line for each record after a header. Names, sizes and owners
stand in columns of 40, 6 and 20 characters, a blank apart; the description ends the line. Names
and owners are cut to the width of their columns.

* `length_column`: a cell that does not exceed its column fills it exactly.
-/

namespace PlaylistCurator.Listing

/-- On which side of its column a text stands. -/
inductive Alignment
  | left
  | right
  deriving DecidableEq, Repr

/-- A text filled up with blanks to a width; a longer text stays as it is. -/
def column (alignment : Alignment) (width : Nat) (text : List Char) : List Char :=
  match alignment with
  | .left => text.rightpad width ' '
  | .right => text.leftpad width ' '

/-- The width of the column of names. -/
def nameWidth : Nat := 40

/-- The width of the column of sizes. -/
def sizeWidth : Nat := 6

/-- The width of the column of owners. -/
def ownerWidth : Nat := 20

/-- A line of the table, with its line end. -/
def line (name size owner description : List Char) : List Char :=
  column .left nameWidth name ++ ' ' :: column .right sizeWidth size ++
    ' ' :: column .left ownerWidth owner ++ ' ' :: description ++ ['\n']

/-- The line above the records. -/
def header : List Char :=
  line "PLAYLIST NAME".toList "SIZE".toList "OWNER".toList "DESCRIPTION".toList

/-- The line of a record. -/
def recordLine (record : Record) : List Char :=
  line ((record.text .name).toList.take nameWidth) (record.text .size).toList
    ((record.text .owner).toList.take ownerWidth) (record.text .description).toList

/-- The table of the given records. -/
def format (records : List Record) : String :=
  String.ofList (header ++ records.flatMap recordLine)

/-- A cell that does not exceed its column fills it exactly. -/
theorem length_column (alignment : Alignment) {width : Nat} {text : List Char}
    (h : text.length ≤ width) : (column alignment width text).length = width := by
  cases alignment <;> simp [column] <;> omega

end PlaylistCurator.Listing
