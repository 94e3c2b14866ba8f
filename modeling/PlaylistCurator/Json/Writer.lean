import PlaylistCurator.Json.Value

/-!
# Writing JSON

The indented text of a JSON value: each item of a list and each member of an object on a line of
its own, two blanks further in than the brackets; an empty list or object on one line. Inside
strings the quote, the backslash and the characters below U+0020 are escaped, by a letter where
there is one.
-/

namespace PlaylistCurator.Json

/-- The letter that escapes a character. -/
def escapeLetter? : Char → Option Char
  | '"' => some '"'
  | '\\' => some '\\'
  | '\x08' => some 'b'
  | '\x0c' => some 'f'
  | '\n' => some 'n'
  | '\r' => some 'r'
  | '\t' => some 't'
  | _ => none

/-- The escape that spells a 16-bit code. -/
def codeEscape (code : Nat) : List Char :=
  '\\' :: 'u' :: ((Nat.toDigits 16 code).leftpad 4 '0')

/-- A unit of a string as it is written. -/
def StringUnit.write : StringUnit → List Char
  | .char c =>
    match escapeLetter? c with
    | some letter => ['\\', letter]
    | none => if c.toNat < 0x20 then codeEscape c.toNat else [c]
  | .half code => codeEscape code

/-- A string in quotes. -/
def writeString (units : List StringUnit) : List Char :=
  '"' :: units.flatMap StringUnit.write ++ ['"']

/-- The start of a line at a depth of nesting. -/
def newLine (depth : Nat) : List Char :=
  '\n' :: List.replicate (2 * depth) ' '

/-- Entries between brackets, each on a line of its own. -/
def writeBlock (opening closing : Char) (depth : Nat) (entries : List (List Char)) : List Char :=
  if entries.isEmpty then [opening, closing]
  else
    opening :: List.intercalate [','] (entries.map (newLine (depth + 1) ++ ·)) ++
      newLine depth ++ [closing]

mutual

/-- The text of a value at a depth of nesting. -/
def write (depth : Nat) : Json → List Char
  | .null => "null".toList
  | .bool true => "true".toList
  | .bool false => "false".toList
  | .number literal => literal.toChars
  | .string units => writeString units
  | .array items => writeBlock '[' ']' depth (writeItems (depth + 1) items)
  | .object members => writeBlock '{' '}' depth (writeMembers (depth + 1) members)

/-- The texts of the items of a list. -/
def writeItems (depth : Nat) : List Json → List (List Char)
  | [] => []
  | item :: rest => write depth item :: writeItems depth rest

/-- The texts of the members of an object. -/
def writeMembers (depth : Nat) : List (List StringUnit × Json) → List (List Char)
  | [] => []
  | (key, value) :: rest =>
    (writeString key ++ ": ".toList ++ write depth value) :: writeMembers depth rest

end

/-- The indented text of a value. -/
def pretty (value : Json) : String :=
  String.ofList (write 0 value)

end PlaylistCurator.Json
