import PlaylistCurator.Decimal.Double
import PlaylistCurator.Text.HexDigit
import PlaylistCurator.Toml.Value

/-!
# TOML numbers, truth values and dates

The values that are written as a run of letters, digits, signs, points and colons. Digits of a
number can be set apart by single underscores. Decimal integers have no leading zeros; a number with
a fraction or an exponent must stay below infinity; dates and times of day must exist, where a
minute can have a leap second.

* `Toml.ofScalar?`: the value that a run denotes.
-/

namespace PlaylistCurator.Toml

/-- The digits of a run in which single underscores may stand between digits. -/
def grouped? (isDigit : Char → Bool) : List Char → Option (List Char)
  | [] => none
  | [c] => if isDigit c then some [c] else none
  | c :: '_' :: rest => if isDigit c then (grouped? isDigit rest).map (c :: ·) else none
  | c :: rest => if isDigit c then (grouped? isDigit rest).map (c :: ·) else none

/-- Whether a character is a digit to a base of at most sixteen. -/
def isDigitTo (base : Nat) (c : Char) : Bool :=
  (Text.hexDigit? c).any (· < base)

/-- The number that digits denote to a base. -/
def ofDigits (base : Nat) (digits : List Char) : Nat :=
  digits.foldl (fun value c => base * value + (Text.hexDigit? c).getD 0) 0

/-- Splits the sign off a number: whether it is a minus sign, and the rest. -/
def sign : List Char → Bool × List Char
  | '-' :: rest => (true, rest)
  | '+' :: rest => (false, rest)
  | rest => (false, rest)

/-- The digits of the whole part of a decimal number, which begin with a zero only if there is but
one. -/
def whole? (run : List Char) : Option (List Char) :=
  if run.head? = some '0' ∧ run.length ≠ 1 then none else grouped? Char.isDigit run

/-- An integer in the range of 64 bits with a sign. -/
def inRange? (value : Int) : Option Int :=
  if Int64.minValue.toInt ≤ value ∧ value ≤ Int64.maxValue.toInt then some value else none

/-- The integer that a run denotes. -/
def integer? : List Char → Option Int
  | '0' :: 'x' :: digits => based? 16 digits
  | '0' :: 'o' :: digits => based? 8 digits
  | '0' :: 'b' :: digits => based? 2 digits
  | run => do
    let (negative, digits) := sign run
    let value := ofDigits 10 (← whole? digits)
    inRange? (if negative then -value else value)
where
  /-- The integer that digits after the mark of a base denote. -/
  based? (base : Nat) (run : List Char) : Option Int := do
    inRange? (ofDigits base (← grouped? (isDigitTo base) run))

/-- The exponent that a run spells after its mark; an empty run spells none. -/
def exponent? : List Char → Option Int
  | [] => some 0
  | mark :: run =>
    if mark = 'e' ∨ mark = 'E' then do
      let (negative, digits) := sign run
      let value := ofDigits 10 (← grouped? Char.isDigit digits)
      return if negative then -value else value
    else none

/-- Whether a run is a number with a fraction or an exponent that is no positive infinity, or one of
the words for the infinities and for what is no number. -/
def isFloat (run : List Char) : Bool :=
  let (negative, unsigned) := sign run
  let isGrouped := fun c => Char.isDigit c || c == '_'
  let rest := unsigned.dropWhile isGrouped
  unsigned == "inf".toList || unsigned == "nan".toList ||
    (!rest.isEmpty &&
      ((do
        let whole ← whole? (unsigned.takeWhile isGrouped)
        let (fraction, rest) ← match rest with
          | '.' :: rest => do
            some (← grouped? Char.isDigit (rest.takeWhile isGrouped), rest.dropWhile isGrouped)
          | rest => some ([], rest)
        let exponent ← exponent? rest
        return negative ||
          Decimal.isFinite (ofDigits 10 (whole ++ fraction)) (exponent - fraction.length)) :
        Option Bool) == some true)

/-- Reads a number of exactly `count` decimal digits from `low` to `high` at the start of a run. -/
def counted? (count low high : Nat) (run : List Char) : Option (Nat × List Char) :=
  let digits := run.take count
  let value := ofDigits 10 digits
  if digits.length = count ∧ digits.all Char.isDigit ∧ low ≤ value ∧ value ≤ high then
    some (value, run.drop count)
  else none

/-- What follows a mark at the start of a run. -/
def after? (mark : Char) : List Char → Option (List Char)
  | [] => none
  | c :: rest => if c = mark then some rest else none

/-- The number of days of a month in the Gregorian calendar. -/
def daysIn (year month : Nat) : Nat :=
  if month = 2 then
    if year % 4 = 0 ∧ (year % 100 ≠ 0 ∨ year % 400 = 0) then 29 else 28
  else if month = 4 ∨ month = 6 ∨ month = 9 ∨ month = 11 then 30
  else 31

/-- What follows a date at the start of a run. -/
def afterDate? (run : List Char) : Option (List Char) := do
  let (year, run) ← counted? 4 0 9999 run
  let (month, run) ← counted? 2 1 12 (← after? '-' run)
  let (_, run) ← counted? 2 1 (daysIn year month) (← after? '-' run)
  return run

/-- What follows the fraction of a second at the start of a run; there may be no fraction. -/
def afterFraction? : List Char → Option (List Char)
  | '.' :: run =>
    if (run.head?.any Char.isDigit) then some (run.dropWhile Char.isDigit) else none
  | run => some run

/-- What follows hours and minutes at the start of a run. -/
def afterMinutes? (run : List Char) : Option (List Char) := do
  let (_, run) ← counted? 2 0 23 run
  let (_, run) ← counted? 2 0 59 (← after? ':' run)
  return run

/-- What follows a time of day at the start of a run. -/
def afterTime? (run : List Char) : Option (List Char) := do
  let (_, run) ← counted? 2 0 60 (← after? ':' (← afterMinutes? run))
  afterFraction? run

/-- Whether a run is an offset from universal time, or empty. -/
def isOffset : List Char → Bool
  | [] | ['Z'] | ['z'] => true
  | '+' :: run | '-' :: run => afterMinutes? run == some []
  | _ => false

/-- Whether a run is a date. -/
def isDate (run : List Char) : Bool :=
  afterDate? run == some []

/-- Whether a run is a date, a time of day, or both with or without an offset. -/
def isDateTime (run : List Char) : Bool :=
  match afterDate? run with
  | none => afterTime? run == some []
  | some [] => true
  | some (mark :: rest) =>
    (mark == 'T' || mark == 't' || mark == ' ') && (afterTime? rest).any isOffset

/-- The value that a run denotes. -/
def ofScalar? (run : List Char) : Option Toml :=
  if run = "true".toList then some (.boolean true)
  else if run = "false".toList then some (.boolean false)
  else if isDateTime run then some (.dateTime run)
  else if isFloat run then some (.float run)
  else (integer? run).map .integer

example : integer? "1_000".toList = some 1000 ∧ integer? "0xF_f".toList = some 255 ∧
    integer? "-0".toList = some 0 := by decide
example : integer? "01".toList = none ∧ integer? "1__0".toList = none ∧ integer? "_1".toList = none ∧
    integer? "+0x1".toList = none ∧ integer? "9223372036854775808".toList = none := by decide
example : isFloat "6.02e+2_3".toList = true ∧ isFloat "-inf".toList = true ∧
    isFloat "1.".toList = false ∧ isFloat "1e".toList = false := by decide +kernel
example : isDateTime "2024-02-29 23:59:60.5-07:00".toList = true ∧
    isDateTime "2023-02-29".toList = false ∧ isDateTime "07:32".toList = false := by decide

end PlaylistCurator.Toml
