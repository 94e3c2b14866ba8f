import PlaylistCurator.Text.Blank
import PlaylistCurator.Text.LowerCase
import PlaylistCurator.Text.SignedInteger

/-!
# Field values

The value of a field is a text or a signed 64-bit integer. Either kind can be shown as text and,
where a text reads as an integer, compared as a number.
-/

namespace PlaylistCurator

/-- A value of a field. -/
inductive Value
  | text (content : String)
  | number (amount : Int64)
  deriving DecidableEq, Repr

namespace Value

/-- The value as it is shown. -/
def display : Value → String
  | .text content => content
  | .number amount => toString amount.toInt

/-- The value as it is shown, in lower case. -/
def folded (value : Value) : List Char :=
  Text.lower value.display.toList

/-- The integer that a value holds or whose text, trimmed, it is. -/
def integer? : Value → Option Int64
  | .text content => Text.int64? (Text.trim content.toList)
  | .number amount => some amount

/-- The order of two values as they are shown, character by character. -/
def compareText (a b : Value) : Ordering :=
  compareOfLessAndEq a.display b.display

/-- The order of two values as numbers. A value without a number comes after all others, and two
such values are ordered as texts. -/
def compareNumeric (a b : Value) : Ordering :=
  match a.integer?, b.integer? with
  | some m, some n => compareOfLessAndEq m.toInt n.toInt
  | some _, none => .lt
  | none, some _ => .gt
  | none, none => a.compareText b

end Value

end PlaylistCurator
