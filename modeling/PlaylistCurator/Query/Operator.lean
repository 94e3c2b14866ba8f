import PlaylistCurator.Query.Abbreviation
import PlaylistCurator.Record.Value
import PlaylistCurator.Text.Occurrence

/-!
# Operators of a filter

An operator decides whether a field's value is accepted for a given test text. The text operators
compare both sides in lower case; the numeric ones compare them as signed 64-bit integers and
accept nothing where either side is no such integer.
-/

namespace PlaylistCurator

/-- How a filter compares a field with its test text. -/
inductive Operator
  | contains
  | equals
  | starts
  | ends
  | greater
  | greaterEqual
  | less
  | lessEqual
  deriving DecidableEq, Repr

namespace Operator

/-- Every operator. -/
def all : List Operator :=
  [.contains, .equals, .starts, .ends, .greater, .greaterEqual, .less, .lessEqual]

/-- The name of an operator in messages. -/
def label : Operator → String
  | .contains => "Contains"
  | .equals => "Equals"
  | .starts => "Starts"
  | .ends => "Ends"
  | .greater => "Greater"
  | .greaterEqual => "GreaterEqual"
  | .less => "Less"
  | .lessEqual => "LessEqual"

/-- Whether an operator compares numbers. -/
def isNumeric : Operator → Bool
  | .contains | .equals | .starts | .ends => false
  | .greater | .greaterEqual | .less | .lessEqual => true

/-- The words for the operators. -/
def abbreviations : List (String × Operator) := [
  ("c", .contains), ("con", .contains), ("contains", .contains),
  ("eq", .equals), ("equals", .equals),
  ("s", .starts), ("st", .starts), ("starts", .starts),
  ("en", .ends), ("end", .ends), ("ends", .ends),
  ("gt", .greater), ("gr", .greater), ("greater", .greater),
  ("ge", .greaterEqual), ("geq", .greaterEqual),
  ("lt", .less), ("less", .less),
  ("leq", .lessEqual)]

/-- The table of the words for the operators. -/
def table : AbbreviationTable Operator := .ofList abbreviations

/-- The operator that a token names. -/
def find (token : Option String) : Except UnknownToken Operator := table.find token

/-- Whether `order` holds between the integers of a value and of a test text. -/
def comparesIntegers (order : Int → Int → Bool) (test : String) (actual : Value) : Bool :=
  match Text.int64? (Text.trim test.toList), actual.integer? with
  | some bound, some number => order number.toInt bound.toInt
  | _, _ => false

/-- Whether an operator accepts a value for a test text. -/
def accepts (operator : Operator) (test : String) (actual : Value) : Bool :=
  match operator with
  | .contains => Text.occursIn (Text.lower test.toList) actual.folded
  | .equals => actual.folded == Text.lower test.toList
  | .starts => (Text.lower test.toList).isPrefixOf actual.folded
  | .ends => (Text.lower test.toList).isSuffixOf actual.folded
  | .greater => comparesIntegers (· > ·) test actual
  | .greaterEqual => comparesIntegers (· ≥ ·) test actual
  | .less => comparesIntegers (· < ·) test actual
  | .lessEqual => comparesIntegers (· ≤ ·) test actual

end Operator

end PlaylistCurator
