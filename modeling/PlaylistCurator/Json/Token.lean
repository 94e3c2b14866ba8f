import PlaylistCurator.Json.Value
import PlaylistCurator.Text.HexDigit

/-!
# JSON tokens

The tokens of a JSON text. Scanning is a fold over the characters: each character takes the scanner
from one state to the next or stops it, so that scanning two texts one after the other is scanning
their concatenation.

* `Scanner.step`: what a character does.
* `tokenize`: the tokens of a whole text.
-/

namespace PlaylistCurator.Json

/-- A token of a JSON text. -/
inductive Token
  | openArray
  | closeArray
  | openObject
  | closeObject
  | comma
  | colon
  | null
  | bool (value : Bool)
  | number (literal : Number)
  | string (units : List StringUnit)
  deriving DecidableEq, Repr

namespace Token

/-- The token of a character that is one by itself. -/
def ofMark? : Char → Option Token
  | '[' => some .openArray
  | ']' => some .closeArray
  | '{' => some .openObject
  | '}' => some .closeObject
  | ',' => some .comma
  | ':' => some .colon
  | _ => none

/-- The token of a run of letters, digits, signs and points. -/
def ofBare? (run : List Char) : Option Token :=
  if run = "null".toList then some .null
  else if run = "true".toList then some (.bool true)
  else if run = "false".toList then some (.bool false)
  else (Number.ofChars? run).map .number

end Token

/-- Whether a character may stand between tokens. -/
def isSpace (c : Char) : Bool := c == ' ' || c == '\t' || c == '\n' || c == '\r'

/-- Whether a character belongs to a run that makes a number, `null`, `true` or `false`. -/
def isBare (c : Char) : Bool := c.isAlphanum || c == '+' || c == '-' || c == '.'

/-- How far an escape in a string has been read. -/
inductive Escape
  /-- No escape is open. -/
  | none
  /-- A backslash has been read. -/
  | begun
  /-- The code of an escape is being read: `digits` of its four digits, with the value so far. -/
  | code (digits value : Nat)
  deriving DecidableEq, Repr

/-- The token that a scanner is in. Characters and units are kept latest first. -/
inductive Lexeme
  /-- The scanner is between tokens. -/
  | outside
  /-- A run of bare characters. -/
  | bare (run : List Char)
  /-- A string. -/
  | string (units : List StringUnit) (escape : Escape)
  deriving DecidableEq, Repr

/-- A scanner part of the way through a text. -/
structure Scanner where
  /-- The tokens that are complete, latest first. -/
  tokens : List Token
  /-- The token that has been begun. -/
  lexeme : Lexeme
  deriving DecidableEq, Repr

/-- The character that a one-letter escape spells. -/
def escapedChar? : Char → Option Char
  | '"' => some '"'
  | '\\' => some '\\'
  | '/' => some '/'
  | 'b' => some '\x08'
  | 'f' => some '\x0c'
  | 'n' => some '\n'
  | 'r' => some '\r'
  | 't' => some '\t'
  | _ => none

namespace Scanner

/-- The scanner at the start of a text. -/
def start : Scanner := ⟨[], .outside⟩

/-- A character between tokens. -/
def stepOutside (tokens : List Token) (c : Char) : Option Scanner :=
  if isSpace c then some ⟨tokens, .outside⟩
  else if c = '"' then some ⟨tokens, .string [] .none⟩
  else if isBare c then some ⟨tokens, .bare [c]⟩
  else (Token.ofMark? c).map fun token => ⟨token :: tokens, .outside⟩

/-- A character in a string. -/
def stepString (tokens : List Token) (units : List StringUnit) (c : Char) :
    Escape → Option Scanner
  | .none =>
    if c = '"' then some ⟨.string units.reverse :: tokens, .outside⟩
    else if c = '\\' then some ⟨tokens, .string units .begun⟩
    else if c.toNat < 0x20 then none
    else some ⟨tokens, .string (.char c :: units) .none⟩
  | .begun =>
    if c = 'u' then some ⟨tokens, .string units (.code 0 0)⟩
    else (escapedChar? c).map fun c => ⟨tokens, .string (.char c :: units) .none⟩
  | .code digits value =>
    (Text.hexDigit? c).map fun digit =>
      let value := 16 * value + digit
      if digits = 3 then ⟨tokens, .string (.ofCode value :: units) .none⟩
      else ⟨tokens, .string units (.code (digits + 1) value)⟩

/-- What a character does to a scanner; nothing follows where the text cannot be one of JSON. -/
def step (scanner : Scanner) (c : Char) : Option Scanner :=
  match scanner.lexeme with
  | .outside => stepOutside scanner.tokens c
  | .bare run =>
    if isBare c then some ⟨scanner.tokens, .bare (c :: run)⟩
    else (Token.ofBare? run.reverse).bind fun token => stepOutside (token :: scanner.tokens) c
  | .string units escape => stepString scanner.tokens units c escape

/-- The tokens of the scanned text, if it ends here. -/
def finish (scanner : Scanner) : Option (List Token) :=
  match scanner.lexeme with
  | .outside => some scanner.tokens.reverse
  | .bare run => (Token.ofBare? run.reverse).map fun token => (token :: scanner.tokens).reverse
  | .string .. => none

/-- Scans a text from a state of the scanner. -/
def scan (scanner : Scanner) (text : List Char) : Option Scanner :=
  text.foldlM step scanner

/-- Scanning goes on where it stopped. -/
theorem scan_append (scanner : Scanner) (text more : List Char) :
    scanner.scan (text ++ more) = (scanner.scan text).bind fun next => next.scan more := by
  simp only [scan, List.foldlM_append]
  rfl

end Scanner

/-- The tokens of a JSON text. -/
def tokenize (text : List Char) : Option (List Token) :=
  (Scanner.start.scan text).bind Scanner.finish

end PlaylistCurator.Json
