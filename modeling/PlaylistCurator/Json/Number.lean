import PlaylistCurator.Decimal.Double

/-!
# JSON numbers

A number as it is written: a sign, whole digits, and possibly a fraction and an exponent. It is kept
in parts, since a reader asks different things of it: whether it is a plain natural number, or
whether it has a value in double precision at all.

* `Number.ofChars?`: the parts of a written number.
* `Number.natural?_ofNat`: the number written for a natural number denotes it.
-/

namespace PlaylistCurator.Json

/-- A written number. -/
structure Number where
  /-- Whether it begins with a minus sign. -/
  negative : Bool
  /-- The digits before the point: `0`, or digits that do not begin with a zero. -/
  whole : List Char
  /-- The digits after the point, none without a point. -/
  fraction : List Char
  /-- The exponent, if one is written: whether it is negative, and its digits. -/
  exponent : Option (Bool × List Char)
  deriving DecidableEq, Repr

namespace Number

/-- Splits off the digits that a text begins with. -/
def digits (text : List Char) : List Char × List Char :=
  (text.takeWhile Char.isDigit, text.dropWhile Char.isDigit)

/-- Reads what follows the digits before the exponent: nothing, or an exponent to the end. -/
def exponent? : List Char → Option (Option (Bool × List Char))
  | [] => some none
  | mark :: rest =>
    if mark = 'e' ∨ mark = 'E' then
      let (negative, rest) := match rest with
        | '-' :: rest => (true, rest)
        | '+' :: rest => (false, rest)
        | rest => (false, rest)
      if rest.isEmpty || !rest.all Char.isDigit then none else some (some (negative, rest))
    else none

/-- Reads what follows the digits before the point. -/
def fraction? : List Char → Option (List Char × Option (Bool × List Char))
  | '.' :: rest =>
    let (fraction, rest) := digits rest
    if fraction.isEmpty then none else (exponent? rest).map (fraction, ·)
  | rest => (exponent? rest).map ([], ·)

/-- Reads a number without its sign. -/
def unsigned? (negative : Bool) (text : List Char) : Option Number :=
  let (whole, rest) := digits text
  if whole.isEmpty || (whole.head? == some '0' && whole.length != 1) then none
  else (fraction? rest).map fun (fraction, exponent) => ⟨negative, whole, fraction, exponent⟩

/-- The parts of a written number. -/
def ofChars? : List Char → Option Number
  | '-' :: rest => unsigned? true rest
  | text => unsigned? false text

/-- The number written for a natural number. -/
def ofNat (n : Nat) : Number :=
  ⟨false, Nat.toDigits 10 n, [], none⟩

/-- The natural number that is written without sign, point and exponent. -/
def natural? (number : Number) : Option Nat :=
  if number.negative || !number.fraction.isEmpty || number.exponent.isSome then none
  else some (Nat.ofDigitChars 10 number.whole 0)

/-- The number as it was written, with a small exponent mark. -/
def toChars (number : Number) : List Char :=
  (if number.negative then ['-'] else []) ++ number.whole ++
    (if number.fraction.isEmpty then [] else '.' :: number.fraction) ++
    match number.exponent with
    | none => []
    | some (negative, digits) => 'e' :: (if negative then '-' :: digits else digits)

/-- Takes digits into a 64-bit word for as long as they fit, beginning with `word`: the word, and
how many digits are left over. -/
def fillWord (word : Nat) : List Char → Nat × Nat
  | [] => (word, 0)
  | digit :: rest =>
    let longer := 10 * word + (digit.toNat - '0'.toNat)
    if longer < UInt64.size then fillWord longer rest else (word, rest.length + 1)

/-- Whether a number that is no 64-bit integer has a finite value in double precision. The digits
that fill a 64-bit word make the significand; the others only count towards the exponent, and those
after the point are left out. -/
def isFinite (number : Number) : Bool :=
  let (word, wholeLeft) := fillWord 0 number.whole
  let (word, fractionLeft) := fillWord word number.fraction
  let shift : Int := wholeLeft - (number.fraction.length - fractionLeft : Nat)
  let written : Int := match number.exponent with
    | none => 0
    | some (negative, digits) =>
      if negative then -(Nat.ofDigitChars 10 digits 0 : Int) else Nat.ofDigitChars 10 digits 0
  Decimal.productIsFinite word (shift + written)

/-- The number written for a natural number denotes it. -/
@[simp]
theorem natural?_ofNat (n : Nat) : (ofNat n).natural? = some n := by
  simp [ofNat, natural?, Nat.ofDigitChars_toDigits]

example : (ofChars? "-0.50e+07".toList).map toChars = some "-0.50e07".toList := by decide
example : ofChars? "01".toList = none ∧ ofChars? "1.".toList = none ∧ ofChars? "-".toList = none ∧
    ofChars? "1e".toList = none := by decide
example : ((ofChars? "1e308".toList).map isFinite, (ofChars? "1e309".toList).map isFinite) =
    (some true, some false) := by decide +kernel

end Number

end PlaylistCurator.Json
