import PlaylistCurator.Json.Number

/-!
# JSON values

A JSON document's value, as it is written. Strings are lists of units, because an escape can spell
half of a surrogate pair, which is no character; members of an object stand in their order, repeats
included.

* `Json.textOf?`: the text of a string, if it has one.
* `Json.isStorable`: whether a value can be kept whole.
-/

namespace PlaylistCurator

/-- An element of a JSON string. -/
inductive Json.StringUnit
  /-- A character. -/
  | char (c : Char)
  /-- Half of a surrogate pair, given by its 16-bit code. -/
  | half (code : Nat)
  deriving DecidableEq, Repr

/-- A JSON value. -/
inductive Json
  | null
  | bool (value : Bool)
  | number (literal : Json.Number)
  | string (units : List Json.StringUnit)
  | array (items : List Json)
  | object (members : List (List Json.StringUnit × Json))

namespace Json

/-- Whether a 16-bit code is the first half of a surrogate pair. -/
def isLeading (code : Nat) : Bool := 0xD800 ≤ code && code < 0xDC00

/-- Whether a 16-bit code is the second half of a surrogate pair. -/
def isTrailing (code : Nat) : Bool := 0xDC00 ≤ code && code < 0xE000

/-- The unit that an escape with a 16-bit code spells. -/
def StringUnit.ofCode (code : Nat) : StringUnit :=
  if isLeading code || isTrailing code then .half code else .char (Char.ofNat code)

/-- The character of a surrogate pair. -/
def pairChar (leading trailing : Nat) : Char :=
  Char.ofNat (0x10000 + (leading - 0xD800) * 0x400 + (trailing - 0xDC00))

/-- The characters of a string whose surrogate halves all stand in pairs. -/
def charsOf? : List StringUnit → Option (List Char)
  | [] => some []
  | .char c :: rest => (charsOf? rest).map (c :: ·)
  | .half leading :: .half trailing :: rest =>
    if isLeading leading && isTrailing trailing then
      (charsOf? rest).map (pairChar leading trailing :: ·)
    else none
  | .half _ :: _ => none

/-- The text of a string, unless it holds half of a surrogate pair alone. -/
def textOf? (units : List StringUnit) : Option String :=
  (charsOf? units).map String.ofList

/-- The string of a text. -/
def unitsOf (text : String) : List StringUnit :=
  text.toList.map .char

/-- The JSON string of a text. -/
def ofText (text : String) : Json := .string (unitsOf text)

/-- The JSON number of a natural number. -/
def ofNat (n : Nat) : Json := .number (.ofNat n)

/-- An object with the given members. -/
def ofMembers (members : List (String × Json)) : Json :=
  .object (members.map fun member => (unitsOf member.1, member.2))

/-- A value that may be absent, which is written as null. -/
def ofOption {α : Type} (write : α → Json) : Option α → Json
  | none => .null
  | some value => write value

/-- The text of a value that is a string. -/
def text? : Json → Option String
  | .string units => textOf? units
  | _ => none

/-- The truth value that a value is. -/
def bool? : Json → Option Bool
  | .bool value => some value
  | _ => none

/-- The natural number below `bound` that a value is. -/
def natBelow? (bound : Nat) : Json → Option Nat
  | .number literal => literal.natural?.filter (· < bound)
  | _ => none

/-- The values of a list, all read in the same way. -/
def list? {α : Type} (read : Json → Option α) : Json → Option (List α)
  | .array items => items.mapM read
  | _ => none

mutual

/-- Whether a value can be kept whole: its strings are texts, its numbers have values in double
precision, and lists and objects are nested at most `room` deep. -/
def isStorable (room : Nat) : Json → Bool
  | .null | .bool _ => true
  | .number literal => literal.isFinite
  | .string units => (textOf? units).isSome
  | .array items => room != 0 && areStorable (room - 1) items
  | .object members => room != 0 && membersAreStorable (room - 1) members

/-- Whether all values of a list can be kept whole. -/
def areStorable (room : Nat) : List Json → Bool
  | [] => true
  | item :: rest => isStorable room item && areStorable room rest

/-- Whether all members of an object can be kept whole. -/
def membersAreStorable (room : Nat) : List (List StringUnit × Json) → Bool
  | [] => true
  | (key, value) :: rest =>
    (textOf? key).isSome && isStorable room value && membersAreStorable room rest

end

/-- The string of a text has that text. -/
@[simp]
theorem textOf?_unitsOf (text : String) : textOf? (unitsOf text) = some text := by
  have h : ∀ chars : List Char, charsOf? (chars.map .char) = some chars := by
    intro chars
    induction chars with
    | nil => rfl
    | cons c rest ih => simp [charsOf?, ih]
  simp [textOf?, unitsOf, h]

@[simp]
theorem text?_ofText (text : String) : (ofText text).text? = some text :=
  textOf?_unitsOf text

/-- A natural number below the bound is read back from its JSON number. -/
theorem natBelow?_ofNat {bound n : Nat} (h : n < bound) :
    (ofNat n).natBelow? bound = some n := by
  simp [natBelow?, ofNat, h]

example : textOf? [.half 0xD83D, .half 0xDE00] = some "😀" := by decide
example : textOf? [.half 0xDE00, .half 0xD83D] = none := by decide

end Json

end PlaylistCurator
