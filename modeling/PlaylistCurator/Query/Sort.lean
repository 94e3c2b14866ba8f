import PlaylistCurator.Query.Error
import PlaylistCurator.Record

/-!
# Sorting

A sort expression is a comma-separated list of keys `field` or `field:direction`, the most
important first. A direction is descending when it begins with `r` or `d` and ascending otherwise.
Records that all keys find equal keep their order.

* `SortKey.parse`: reads an expression.
* `sortBy`: the records in the order of the keys.
-/

namespace PlaylistCurator

/-- Whether a key sorts upwards or downwards. -/
inductive Direction
  | ascending
  | descending
  deriving DecidableEq, Repr

namespace Direction

/-- The words for the directions. -/
def abbreviations : List (String × Direction) := [
  ("a", .ascending), ("asc", .ascending), ("ascending", .ascending),
  ("r", .descending), ("rev", .descending), ("reverse", .descending),
  ("d", .descending), ("desc", .descending), ("descending", .descending)]

/-- The table of the words for the directions. -/
def table : AbbreviationTable Direction := .ofList abbreviations

/-- The direction that a token names; an absent or unknown one means upwards. -/
def find (token : Option String) : Direction :=
  (table.find? (token.getD "")).getD .ascending

/-- An ordering as seen in a direction. -/
def apply (direction : Direction) (ordering : Ordering) : Ordering :=
  match direction with
  | .ascending => ordering
  | .descending => ordering.swap

end Direction

/-- One key of a sort expression. -/
structure SortKey where
  /-- The field that is compared. -/
  field : Field
  /-- The direction in which its values are put. -/
  direction : Direction
  deriving DecidableEq, Repr

namespace SortKey

/-- The order of two values of a field, of which an absent one comes first. -/
def compareValues (field : Field) : Option Value → Option Value → Ordering
  | some a, some b => if field.isNumeric then a.compareNumeric b else a.compareText b
  | none, some _ => .lt
  | some _, none => .gt
  | none, none => .eq

/-- The order in which a key puts two records. -/
def compare (key : SortKey) (a b : Record) : Ordering :=
  key.direction.apply (compareValues key.field (a.get key.field) (b.get key.field))

/-- Reads a clause without blanks around it: a field, and after the first colon a direction. -/
def ofClause (clause : List Char) : Except UnknownToken SortKey := do
  let field := clause.takeWhile (· ≠ ':')
  let direction := (clause.dropWhile (· ≠ ':')).tail?
  let word (part : List Char) : String := String.ofList (Text.lower (Text.trim part))
  return ⟨← Field.find (some (word field)), Direction.find (direction.map word)⟩

/-- Reads a clause of an expression, naming it where it is refused. -/
def parseClause (clause : List Char) : Except QueryError SortKey :=
  let clause := Text.trim clause
  (ofClause clause).mapError (.invalidSort (String.ofList clause))

/-- Reads a sort expression, up to the first clause that is refused. An absent or blank expression
holds no keys. -/
def parse : Option String → Except QueryError (List SortKey)
  | none => .ok []
  | some text =>
    if Text.allBlank text.toList then .ok []
    else (text.toList.splitOn ',').mapM parseClause

end SortKey

/-- The order in which a list of keys puts two records: that of the first key that tells them
apart. -/
def compareBy (keys : List SortKey) (a b : Record) : Ordering :=
  keys.foldr (fun key rest => (key.compare a b).then rest) .eq

/-- The records in the order of the keys. -/
def sortBy (keys : List SortKey) (records : List Record) : List Record :=
  records.mergeSort fun a b => (compareBy keys a b).isLE

/-- The records in the order of a sort expression. -/
def sortRecords (records : List Record) (expression : Option String) :
    Except QueryError (List Record) :=
  (SortKey.parse expression).map (sortBy · records)

end PlaylistCurator
