/-!
# Reading signed 64-bit integers

A signed integer is written as an optional sign and at least one decimal digit, with nothing
around them; leading zeros are allowed. A text that denotes a number outside the signed 64-bit
range does not read.
-/

namespace PlaylistCurator.Text

/-- The number that a run of decimal digits denotes; a run holds at least one digit. -/
def digits? (text : List Char) : Option Nat :=
  if text.isEmpty || !text.all Char.isDigit then none else some (Nat.ofDigitChars 10 text 0)

/-- The number that an optionally signed run of decimal digits denotes. -/
def integer? : List Char → Option Int
  | '+' :: digits => (digits? digits).map fun n => (n : Int)
  | '-' :: digits => (digits? digits).map fun n => -(n : Int)
  | digits => (digits? digits).map fun n => (n : Int)

/-- The signed 64-bit integer that a text denotes. -/
def int64? (text : List Char) : Option Int64 :=
  (integer? text).bind fun n =>
    if Int64.minValue.toInt ≤ n ∧ n ≤ Int64.maxValue.toInt then some (Int64.ofInt n) else none

example : int64? "+007".toList = some 7 := by decide
example : int64? "-9223372036854775808".toList = some Int64.minValue := by decide
example : int64? "9223372036854775808".toList = none := by decide
example : int64? " 5".toList = none ∧ int64? "+".toList = none ∧ int64? "".toList = none := by
  decide

end PlaylistCurator.Text
